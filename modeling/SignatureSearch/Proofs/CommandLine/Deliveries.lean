import SignatureSearch.CommandLine.Run
import SignatureSearch.Proofs.Session.Tallies

/-!
# Loading what the arguments name

The documentation files are loaded in order, and the first that cannot be read, or whose package is
there already, ends it.  So all of them are loaded exactly when each can be read and no package is
named twice, and then the session holds their packages in order and has counted what was left out of
them.
-/

namespace SignatureSearch
namespace CommandLine

open Catalog (Delivery Holds)
open Session (LoadReport)

/-- The package that an argument names, if the file can be read and holds documentation. -/
def delivery? (disk : Disk) : OptionValue String → Option Delivery
  | .hollow => none
  | .given text =>
      let argument := DocsArgument.ofText text
      match readDocs disk argument.path with
      | .error _ => none
      | .ok modules => some { package := argument.package, modules }

/-- Arguments deliver packages beside earlier ones: each argument names a package that can be read,
and no package comes twice. -/
structure Delivers (disk : Disk) (earlier : List Delivery) (docs : List (OptionValue String))
    (deliveries : List Delivery) : Prop where
  /-- Every file can be read. -/
  read : docs.map (delivery? disk) = deliveries.map some
  /-- No package comes twice. -/
  distinct : ((earlier ++ deliveries).map Delivery.package).Nodup

/-- An argument that names no file comes after arguments that deliver packages. -/
def Stumbles (disk : Disk) (earlier : List Delivery) (docs : List (OptionValue String)) : Prop :=
  ∃ before rest deliveries,
    docs = before ++ .hollow :: rest ∧ Delivers disk earlier before deliveries

section Arguments

variable {disk : Disk} {earlier deliveries others : List Delivery} {delivery : Delivery}
  {argument : OptionValue String} {docs : List (OptionValue String)}

theorem package_of_delivery? {text : String} (read : delivery? disk (.given text) = some delivery) :
    delivery.package = (DocsArgument.ofText text).package := by
  rw [delivery?] at read
  split at read
  · cases read
  · cases read
    rfl

theorem Delivers.unique (one : Delivers disk earlier docs deliveries)
    (other : Delivers disk earlier docs others) : deliveries = others :=
  (List.map_inj_right fun _ _ => Option.some.inj).mp (one.read.symm.trans other.read)

theorem delivers_cons (read : delivery? disk argument = some delivery) :
    Delivers disk earlier (argument :: docs) deliveries ↔
      ∃ rest, deliveries = delivery :: rest ∧ Delivers disk (earlier ++ [delivery]) docs rest := by
  constructor
  · intro delivers
    have same := delivers.read
    rw [List.map_cons, read] at same
    cases deliveries with
    | nil => cases same
    | cons first rest =>
        rw [List.map_cons, List.cons.injEq, Option.some.injEq] at same
        obtain ⟨rfl, others⟩ := same
        refine ⟨rest, rfl, others, ?_⟩
        rw [List.append_assoc, List.singleton_append]
        exact delivers.distinct
  · rintro ⟨rest, rfl, delivers⟩
    have distinct := delivers.distinct
    rw [List.append_assoc, List.singleton_append] at distinct
    exact ⟨by rw [List.map_cons, read, delivers.read, List.map_cons], distinct⟩

/-- An argument whose package cannot be read or is there already ends the loading. -/
theorem not_delivers_cons
    (known : ∀ delivery, delivery? disk argument = some delivery →
      delivery.package ∈ earlier.map Delivery.package) :
    ¬ Delivers disk earlier (argument :: docs) deliveries := by
  intro delivers
  have same := delivers.read
  cases deliveries with
  | nil => cases same
  | cons first rest =>
      rw [List.map_cons, List.map_cons, List.cons.injEq] at same
      have distinct := delivers.distinct
      rw [List.map_append, List.map_cons, List.nodup_append] at distinct
      exact distinct.2.2 _ (known first same.1) _ List.mem_cons_self rfl

theorem stumbles_cons (read : delivery? disk argument = some delivery) :
    Stumbles disk earlier (argument :: docs) ↔ Stumbles disk (earlier ++ [delivery]) docs := by
  constructor
  · rintro ⟨before, rest, deliveries, split, delivers⟩
    cases before with
    | nil =>
        rw [List.nil_append, List.cons.injEq] at split
        rw [split.1] at read
        cases read
    | cons first before =>
        rw [List.cons_append, List.cons.injEq] at split
        obtain ⟨rfl, rfl⟩ := split
        obtain ⟨others, -, more⟩ := (delivers_cons read).mp delivers
        exact ⟨before, rest, others, rfl, more⟩
  · rintro ⟨before, rest, deliveries, rfl, delivers⟩
    exact ⟨argument :: before, rest, delivery :: deliveries, rfl,
      (delivers_cons read).mpr ⟨deliveries, rfl, delivers⟩⟩

theorem Delivers.not_stumbles (delivers : Delivers disk earlier docs deliveries) :
    ¬ Stumbles disk earlier docs := by
  rintro ⟨before, rest, others, rfl, -⟩
  have missing : none ∈ deliveries.map some := by
    rw [← delivers.read]
    exact List.mem_map.mpr
      ⟨.hollow, List.mem_append_right before List.mem_cons_self, rfl⟩
  simp at missing

end Arguments

/-- A session holds packages under some settings and keeps nothing false. -/
structure Stocked (settings : Settings) (deliveries : List Delivery) (session : Session) :
    Prop where
  /-- It holds the packages in order. -/
  holds : Holds deliveries session.catalog
  /-- It keeps nothing false. -/
  faithful : session.Faithful
  /-- It is configured so. -/
  settings : session.settings = settings
  /-- It has counted modules as left out of the packages that they are left out of. -/
  failures : ∀ package, package ∈ session.tally.moduleFailures.keys ↔
    ∃ delivery ∈ deliveries, delivery.package = package ∧ delivery.batch.failed ≠ []

theorem keys_leaveOut (tally : Session.Tally) (package other : String) (count : Nat) :
    other ∈ (tally.leaveOut package count).moduleFailures.keys ↔
      other ∈ tally.moduleFailures.keys ∨ (package = other ∧ count ≠ 0) := by
  rw [Session.Tally.leaveOut]
  split
  · rename_i none
    simp [none]
  · rename_i some
    simp [Table.mem_keys_put, some, or_comm, eq_comm]

variable {settings : Settings} {earlier : List Delivery} {session : Session}

theorem stocked_start (settings : Settings) : Stocked settings [] (.start settings) where
  holds := .empty
  faithful := Session.faithful_start settings
  settings := rfl
  failures _ := iff_of_false List.not_mem_nil nofun

/-- A message changes nothing. -/
theorem Stocked.note (stocked : Stocked settings earlier session) (severity : Log.Severity)
    (source : Log.Source) (message : String) :
    Stocked settings earlier (session.note severity source message) :=
  ⟨stocked.holds, stocked.faithful, stocked.settings, stocked.failures⟩

/-- Loading a package takes it in or finds it there. -/
theorem Stocked.load (stocked : Stocked settings earlier session) (delivery : Delivery) :
    (delivery.package ∈ earlier.map Delivery.package ∧
      (session.load delivery.package delivery.modules).1 =
        .error { package := delivery.package }) ∨
    (delivery.package ∉ earlier.map Delivery.package ∧
      (session.load delivery.package delivery.modules).1 = .ok (.ofBatch delivery.batch) ∧
      Stocked settings (earlier ++ [delivery])
        (session.load delivery.package delivery.modules).2) := by
  have configured : (session.load delivery.package delivery.modules).2.settings = settings := by
    rcases session.load_cases delivery with ⟨-, -, same⟩ | ⟨grown, -, -, same⟩
    · exact same.settings.trans stocked.settings
    · exact same.settings.trans stocked.settings
  have counted (package : String) :
      package ∈ (session.load delivery.package delivery.modules).2.tally.moduleFailures.keys ↔
        ∃ other ∈ earlier ++ [delivery], other.package = package ∧ other.batch.failed ≠ [] := by
    obtain ⟨_, _, tally⟩ := session.tally_load delivery.package delivery.modules
    rw [tally, keys_leaveOut, stocked.failures, Ne, List.length_eq_zero_iff,
      ← List.map_eq_nil_iff (f := Docs.Corruption.module)]
    simp only [List.mem_append, List.mem_singleton, or_and_right, exists_or, exists_eq_left]
    rfl
  rw [← stocked.holds.packages_eq]
  exact (session.holds_load stocked.holds delivery).imp
    (fun ⟨known, refused, _⟩ => ⟨known, refused⟩)
    fun ⟨new, accepted, holds⟩ =>
      ⟨new, accepted, holds, Session.faithful_load stocked.faithful delivery, configured, counted⟩

theorem readDocs_ne_unnamed {disk : Disk} {path : Path} {error : LoadError}
    (failed : readDocs disk path = .error error) : error ≠ .unnamed := by
  rintro rfl
  rw [readDocs] at failed
  split at failed
  · cases failed
  · split at failed <;> cases failed

/-- Loading the package of an argument succeeds if and only if it can be read and is new. -/
theorem loadPackage_cases (stocked : Stocked settings earlier session) (disk : Disk)
    (argument : OptionValue String) :
    (∃ delivery after, delivery? disk argument = some delivery ∧
      loadPackage disk session argument = (.ok (.ofBatch delivery.batch), after) ∧
      Stocked settings (earlier ++ [delivery]) after) ∨
    ∃ error after, loadPackage disk session argument = (.error error, after) ∧
      (error = .unnamed ↔ argument = .hollow) ∧
      ∀ delivery, delivery? disk argument = some delivery →
        delivery.package ∈ earlier.map Delivery.package := by
  cases argument with
  | hollow =>
      refine .inr ⟨.unnamed, session, rfl, iff_of_true rfl rfl, ?_⟩
      rintro delivery ⟨⟩
  | given text =>
      rw [loadPackage, delivery?]
      dsimp only
      cases read : readDocs disk (DocsArgument.ofText text).path with
      | error error =>
          refine .inr ⟨error, session, rfl, iff_of_false (readDocs_ne_unnamed read) ?_, ?_⟩
          · rintro ⟨⟩
          · rintro delivery ⟨⟩
      | ok modules =>
          let argument := DocsArgument.ofText text
          have noted := stocked.note .debug .loader (loadedMessage argument.path modules)
          have step := noted.load { package := argument.package, modules }
          dsimp only at step ⊢
          generalize Session.load _ argument.package modules = loaded at step ⊢
          obtain ⟨result, after⟩ := loaded
          rcases step with ⟨known, rfl⟩ | ⟨-, rfl, kept⟩
          · refine .inr ⟨_, after, rfl, iff_of_false ?_ ?_, fun delivery same => ?_⟩
            · rintro ⟨⟩
            · rintro ⟨⟩
            · rw [← Option.some.inj same]
              exact known
          · exact .inl ⟨_, after, rfl, rfl, kept⟩

/-- Loading comes to its end if and only if the arguments deliver packages, and finds no file named
if and only if it stumbles. -/
theorem loadPackages_cases (stocked : Stocked settings earlier session) (disk : Disk)
    (docs : List (OptionValue String)) :
    (∃ deliveries after, Delivers disk earlier docs deliveries ∧
      loadPackages disk session docs =
        (.ok (deliveries.map fun delivery => .ofBatch delivery.batch), after) ∧
      Stocked settings (earlier ++ deliveries) after) ∨
    ∃ error after, loadPackages disk session docs = (.error error, after) ∧
      (error = .unnamed ↔ Stumbles disk earlier docs) ∧
      ∀ deliveries, ¬ Delivers disk earlier docs deliveries := by
  induction docs generalizing earlier session with
  | nil =>
      have distinct := stocked.holds.nodup
      rw [← List.append_nil earlier] at distinct stocked
      exact .inl ⟨[], session, ⟨rfl, distinct⟩, rfl, stocked⟩
  | cons argument docs ih =>
      rcases loadPackage_cases stocked disk argument with
        ⟨delivery, next, read, loaded, kept⟩ | ⟨error, next, failed, unnamed, known⟩
      · -- The package is an earlier one for the arguments that are left.
        rcases ih kept with
          ⟨deliveries, after, delivers, all, last⟩ | ⟨error, after, failed, stumbles, never⟩
        · refine .inl ⟨delivery :: deliveries, after,
            (delivers_cons read).mpr ⟨deliveries, rfl, delivers⟩, ?_, ?_⟩
          · rw [loadPackages, loaded]
            dsimp only
            rw [all, List.map_cons]
          · rw [List.append_assoc, List.singleton_append] at last
            exact last
        · refine .inr ⟨error, after, ?_, stumbles.trans (stumbles_cons read).symm, ?_⟩
          · rw [loadPackages, loaded]
            dsimp only
            rw [failed]
          · intro deliveries delivers
            obtain ⟨rest, -, more⟩ := (delivers_cons read).mp delivers
            exact never rest more
      · refine .inr ⟨error, next, ?_, unnamed.trans ?_, fun _ => not_delivers_cons known⟩
        · rw [loadPackages, failed]
        · constructor
          · rintro rfl
            have distinct := stocked.holds.nodup
            rw [← List.append_nil earlier] at distinct
            exact ⟨[], docs, [], rfl, rfl, distinct⟩
          · rintro ⟨before, rest, deliveries, split, delivers⟩
            cases before with
            | nil => exact (List.cons.inj split).1
            | cons first before =>
                obtain ⟨rfl, -⟩ := List.cons.inj split
                exact absurd delivers (not_delivers_cons known)

end CommandLine
end SignatureSearch
