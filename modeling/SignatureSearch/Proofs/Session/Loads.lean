import Mathlib.Algebra.Ring.Nat
import SignatureSearch.Proofs.Catalog.Contents
import SignatureSearch.Proofs.Session.Agreement

/-!
# Loading packages one after another

A load either finds its package there and leaves the catalogue as it was, or adds the batch of its
modules.  So the catalogue of a session holds, one after another, the packages that were taken in.
-/

namespace SignatureSearch
namespace Session

open Catalog (Batch Delivery Entry Holds Slot)
open Search (AllFaithful)

theorem sameWork_leaveOut (session : Session) (batch : Batch) :
    SameWork session (session.leaveOut batch) := by
  have noted : ∀ (corruptions : List Docs.Corruption) (start : Session), SameWork session start →
      SameWork session (corruptions.foldl
        (fun session corruption =>
          session.note .error .index (skipMessage batch.package corruption)) start) := by
    intro corruptions
    induction corruptions with
    | nil => exact fun _ same => same
    | cons corruption corruptions ih =>
        exact fun start same => ih _ ⟨same.catalog, same.turns, same.settings⟩
  have same := noted batch.corruptions session ⟨rfl, rfl, rfl⟩
  exact ⟨same.catalog, same.turns, same.settings⟩

/-- Modules that are left out are counted, and only that is. -/
theorem tally_leaveOut (session : Session) (batch : Batch) :
    (session.leaveOut batch).tally =
      session.tally.leaveOut batch.package batch.corruptions.length := by
  have noted : ∀ (corruptions : List Docs.Corruption) (start : Session),
      (corruptions.foldl (fun session corruption =>
        session.note .error .index (skipMessage batch.package corruption)) start).tally =
          start.tally := by
    intro corruptions
    induction corruptions with
    | nil => exact fun _ => rfl
    | cons corruption corruptions ih => exact fun start => ih _
  rw [leaveOut]
  dsimp only
  rw [noted]

theorem faithful_slotsOf (eager : Bool) (batch : Batch) :
    AllFaithful (Catalog.slotsOf eager batch) := by
  intro slot member
  obtain ⟨entry, -, rfl⟩ := List.mem_map.mp member
  have untouched := Slot.faithful_untouched entry
  cases eager with
  | true => exact untouched.settle
  | false => exact untouched

theorem allFaithful_add {catalog grown : Catalog} {batch : Batch} {eager : Bool}
    (faithful : AllFaithful catalog.slots) (added : catalog.add batch eager = .ok grown) :
    AllFaithful grown.slots := by
  obtain ⟨-, slots, -⟩ := Catalog.add_eq_ok added
  rw [slots]
  exact List.forall_mem_append.mpr ⟨faithful, faithful_slotsOf eager batch⟩

theorem not_mem_packages_of_add {catalog grown : Catalog} {delivery : Delivery} {eager : Bool}
    (added : catalog.add delivery.batch eager = .ok grown) :
    delivery.package ∉ catalog.packages := by
  obtain ⟨unknown, -, -⟩ := Catalog.add_eq_ok added
  rwa [Delivery.batch, Batch.package_ofModules] at unknown

/-- A load finds its package there and changes nothing, or adds the batch of its modules. -/
theorem load_cases (session : Session) (delivery : Delivery) :
    (delivery.package ∈ session.catalog.packages ∧
      (session.load delivery.package delivery.modules).1 =
        .error { package := delivery.package } ∧
      SameWork session (session.load delivery.package delivery.modules).2) ∨
    ∃ grown, session.catalog.add delivery.batch session.settings.eagerParse = .ok grown ∧
      (session.load delivery.package delivery.modules).1 = .ok (.ofBatch delivery.batch) ∧
      SameWork { session with catalog := grown }
        (session.load delivery.package delivery.modules).2 := by
  have same := sameWork_leaveOut session delivery.batch
  have catalog : ((session.leaveOut delivery.batch).prepare delivery.batch).catalog =
      session.catalog := same.catalog
  have settings : ((session.leaveOut delivery.batch).prepare delivery.batch).settings =
      session.settings := same.settings
  rw [load, add, ← Delivery.batch, catalog, settings]
  cases added : session.catalog.add delivery.batch session.settings.eagerParse with
  | error refused =>
      obtain ⟨known, rfl⟩ := Catalog.add_eq_error_iff.mp added
      rw [Delivery.batch, Batch.package_ofModules] at known
      refine .inl ⟨known, ?_, same.catalog, same.turns, same.settings⟩
      simp only [Delivery.batch, Batch.package_ofModules]
  | ok grown => exact .inr ⟨grown, rfl, rfl, rfl, same.turns, rfl⟩

theorem faithful_load {session : Session} (faithful : session.Faithful) (delivery : Delivery) :
    (session.load delivery.package delivery.modules).2.Faithful := by
  rcases session.load_cases delivery with ⟨-, -, same⟩ | ⟨grown, added, -, same⟩
  · exact (same.agree faithful).otherFaithful
  · exact (same.agree (allFaithful_add faithful added)).otherFaithful

/-- Sessions that agree answer a load alike, and agree afterwards. -/
theorem load_of_agree {session other : Session} (agree : Agree session other)
    (delivery : Delivery) :
    (session.load delivery.package delivery.modules).1 =
        (other.load delivery.package delivery.modules).1 ∧
      Agree (session.load delivery.package delivery.modules).2
        (other.load delivery.package delivery.modules).2 := by
  have packages : session.catalog.packages = other.catalog.packages :=
    congrArg Table.keys agree.shelves
  rcases session.load_cases delivery with ⟨known, refused, same⟩ | ⟨grown, added, accepted, same⟩
  · rcases other.load_cases delivery with ⟨-, refused', same'⟩ | ⟨grown', added', -, -⟩
    · have before := same.agree agree.faithful
      have after := same'.agree agree.otherFaithful
      exact ⟨refused.trans refused'.symm, before.symm.trans (agree.trans after)⟩
    · exact absurd (packages ▸ known) (not_mem_packages_of_add added')
  · rcases other.load_cases delivery with ⟨known', -, -⟩ | ⟨grown', added', accepted', same'⟩
    · exact absurd (packages ▸ known') (not_mem_packages_of_add added)
    · obtain ⟨-, -, shelves⟩ := Catalog.add_eq_ok added
      obtain ⟨-, -, shelves'⟩ := Catalog.add_eq_ok added'
      have grownAgree :
          Agree { session with catalog := grown } { other with catalog := grown' } :=
        { agree with
          entries := by
            rw [Catalog.entries_add added, Catalog.entries_add added', agree.entries]
          shelves := by rw [shelves, shelves', agree.shelves]
          faithful := allFaithful_add agree.faithful added
          otherFaithful := allFaithful_add agree.otherFaithful added' }
      have before := same.agree grownAgree.faithful
      have after := same'.agree grownAgree.otherFaithful
      exact ⟨accepted.trans accepted'.symm, before.symm.trans (grownAgree.trans after)⟩

/-- Loading a package keeps what the catalogue holds, and puts the package after it if it is new. -/
theorem holds_load (session : Session) {deliveries : List Delivery}
    (holds : Holds deliveries session.catalog) (delivery : Delivery) :
    (delivery.package ∈ session.catalog.packages ∧
      (session.load delivery.package delivery.modules).1 =
        .error { package := delivery.package } ∧
      Holds deliveries (session.load delivery.package delivery.modules).2.catalog) ∨
    (delivery.package ∉ session.catalog.packages ∧
      (session.load delivery.package delivery.modules).1 = .ok (.ofBatch delivery.batch) ∧
      Holds (deliveries ++ [delivery])
        (session.load delivery.package delivery.modules).2.catalog) := by
  rcases session.load_cases delivery with ⟨known, refused, same⟩ | ⟨grown, added, accepted, same⟩
  · refine .inl ⟨known, refused, ?_⟩
    rw [same.catalog]
    exact holds
  · refine .inr ⟨not_mem_packages_of_add added, accepted, ?_⟩
    rw [same.catalog]
    exact holds.add added

/-! ## Loading many packages -/

/-- Load packages one after another, each under settings of its own, and tell which ones were taken
in. -/
def loadAll (session : Session) : List (Settings × Delivery) → List Delivery × Session
  | [] => ([], session)
  | (settings, delivery) :: loads =>
      match { session with settings }.load delivery.package delivery.modules with
      | (.error _, session) => session.loadAll loads
      | (.ok _, session) =>
          match session.loadAll loads with
          | (taken, session) => (delivery :: taken, session)

theorem loadAll_append (session : Session) (earlier later : List (Settings × Delivery)) :
    session.loadAll (earlier ++ later) =
      ((session.loadAll earlier).1 ++ ((session.loadAll earlier).2.loadAll later).1,
        ((session.loadAll earlier).2.loadAll later).2) := by
  induction earlier generalizing session with
  | nil => rfl
  | cons load earlier ih =>
      obtain ⟨settings, delivery⟩ := load
      rw [List.cons_append, loadAll, loadAll]
      generalize { session with settings }.load delivery.package delivery.modules = loaded
      obtain ⟨result, after⟩ := loaded
      cases result with
      | error refused => exact ih after
      | ok report =>
          dsimp only
          rw [ih]
          rfl

/-- Loads keep what the catalogue holds and put after it the packages that were taken in. -/
theorem holds_loadAll (session : Session) {deliveries : List Delivery}
    (holds : Holds deliveries session.catalog) (loads : List (Settings × Delivery)) :
    Holds (deliveries ++ (session.loadAll loads).1) (session.loadAll loads).2.catalog := by
  induction loads generalizing deliveries session with
  | nil =>
      rw [loadAll, List.append_nil]
      exact holds
  | cons load loads ih =>
      obtain ⟨settings, delivery⟩ := load
      have step := { session with settings }.holds_load holds delivery
      rw [loadAll]
      generalize { session with settings }.load delivery.package delivery.modules = loaded at step
      obtain ⟨result, after⟩ := loaded
      rcases step with ⟨-, rfl, kept⟩ | ⟨-, rfl, grown⟩
      · exact ih after kept
      · have rest := ih after grown
        rw [List.append_assoc] at rest
        exact rest

/-- The packages of a new session are those that it was given, each where it was given first. -/
theorem packages_loadAll_start (settings : Settings) (loads : List (Settings × Delivery)) :
    ((start settings).loadAll loads).1.map Delivery.package =
      (loads.map fun load => load.2.package).eraseDups := by
  induction loads using List.reverseRecOn with
  | nil => rfl
  | append_singleton loads load ih =>
      -- Only the last load has all the others before it, so the induction is on that one.
      obtain ⟨own, delivery⟩ := load
      have holds := (start settings).holds_loadAll .empty loads
      rw [List.nil_append] at holds
      have step := { ((start settings).loadAll loads).2 with settings := own }.holds_load holds
        delivery
      have known : delivery.package ∈ ((start settings).loadAll loads).2.catalog.packages ↔
          delivery.package ∈ loads.map fun load => load.2.package := by
        rw [holds.packages_eq, ih, List.mem_eraseDups]
      rw [loadAll_append, List.map_append, List.map_append, List.map_singleton,
        Table.eraseDups_append_singleton, ih, loadAll]
      generalize { ((start settings).loadAll loads).2 with settings := own }.load delivery.package
        delivery.modules = loaded at step
      obtain ⟨result, after⟩ := loaded
      rcases step with ⟨old, rfl, -⟩ | ⟨new, rfl, -⟩
      · rw [if_pos (known.mp old)]
        exact List.append_nil _
      · rw [if_neg (mt known.mpr new)]
        rfl

/-- **Packages loaded into a new session** lie in its catalogue one after another, those that were
taken in and no others: each package that was given, at its first load, with the entries of those
of its modules that are sound. -/
theorem catalog_loadAll (settings : Settings) (earlier later : List (Settings × Delivery)) :
    let before := ((start settings).loadAll earlier).2.catalog
    let taken := ((start settings).loadAll (earlier ++ later)).1
    let catalog := ((start settings).loadAll (earlier ++ later)).2.catalog
    catalog.packages.Nodup ∧
      catalog.packages = taken.map Delivery.package ∧
      catalog.packages = ((earlier ++ later).map fun load => load.2.package).eraseDups ∧
      catalog.entries = (taken.flatMap fun delivery => delivery.batch.entries) ∧
      (∀ delivery ∈ taken, delivery.batch.entries =
        (delivery.modules.filter (Batch.isSound delivery.package)).flatMap
          (Batch.entriesOf delivery.package)) ∧
      (∀ delivery ∈ taken, delivery.batch.entries =
        catalog.entries.filter fun entry => entry.package = delivery.package) ∧
      before.entries <+: catalog.entries ∧
      catalog.size = (taken.map fun delivery => delivery.batch.entries.length).sum ∧
      (∀ package, (catalog.names package).keys =
        ((catalog.entries.filter fun entry => entry.package = package).map
          Entry.name).eraseDups) ∧
      ∀ package name,
        catalog.linkTarget? package name =
          ((catalog.entries.filter fun entry =>
            entry.package = package ∧ entry.name = name).getLast?).map Entry.module ∧
        (catalog.linkTarget? package name = none ↔
          ∀ entry ∈ catalog.entries, ¬(entry.package = package ∧ entry.name = name)) := by
  intro before taken catalog
  have holds : Holds taken catalog :=
    (start settings).holds_loadAll .empty (earlier ++ later)
  have first : Holds ((start settings).loadAll earlier).1 before :=
    (start settings).holds_loadAll .empty earlier
  have grown : before.entries <+: catalog.entries := by
    have both : taken = ((start settings).loadAll earlier).1 ++
        (((start settings).loadAll earlier).2.loadAll later).1 :=
      congrArg Prod.fst ((start settings).loadAll_append earlier later)
    rw [first.entries, holds.entries, both, List.flatMap_append]
    exact List.prefix_append _ _
  have size : catalog.size =
      (taken.map fun delivery => delivery.batch.entries.length).sum := by
    have lengths := congrArg List.length holds.entries
    rwa [Catalog.entries, List.length_map, List.length_flatMap] at lengths
  have packages := holds.packages_eq
  refine ⟨packages ▸ holds.nodup, packages,
    packages.trans (packages_loadAll_start settings (earlier ++ later)), holds.entries,
    fun delivery _ => Batch.entries_ofModules delivery.package delivery.modules,
    fun delivery member => (holds.filter_entries member).symm, grown, size, holds.keys_names,
    fun package name => ⟨holds.linkTarget?_eq package name, ?_⟩⟩
  rw [holds.linkTarget?_eq, Option.map_eq_none_iff, List.getLast?_eq_none_iff,
    List.filter_eq_nil_iff]
  simp only [decide_eq_true_eq]

end Session
end SignatureSearch
