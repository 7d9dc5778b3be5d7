import SignatureSearch.Proofs.Session.Loads

/-!
# Modules that are left out

A module whose comment lists an unknown entry is left out whole.  What is made of a package is made
of its other modules, as if the module had not been there, whatever names they share; and every
module that is given is told of once, as taken in or as left out, and counted if it was left out.
-/

namespace SignatureSearch

namespace Catalog
namespace Batch

/-- The modules of a package that are taken in. -/
def sound (package : String) (modules : List Docs.ModuleDocs) : List Docs.ModuleDocs :=
  modules.filter (isSound package)

/-- The modules of a package that are left out. -/
def unsound (package : String) (modules : List Docs.ModuleDocs) : List Docs.ModuleDocs :=
  modules.filter fun docs => !isSound package docs

variable (package : String) (modules : List Docs.ModuleDocs)

theorem sound_sound : sound package (sound package modules) = sound package modules := by
  rw [sound, sound, List.filter_filter]
  simp only [Bool.and_self]

theorem unsound_sound : unsound package (sound package modules) = [] := by
  rw [unsound, sound, List.filter_filter, List.filter_eq_nil_iff]
  intro docs _
  cases isSound package docs <;> decide

/-- The same entries come of the sound modules alone. -/
theorem entries_ofModules_sound :
    (ofModules package modules).entries = (ofModules package (sound package modules)).entries := by
  rw [entries_ofModules, entries_ofModules, ← sound, ← sound, sound_sound]

theorem names_ofModules_sound :
    (ofModules package modules).names = (ofModules package (sound package modules)).names := by
  rw [names_ofModules, names_ofModules, entries_ofModules_sound]

theorem pages_ofModules_sound :
    (ofModules package modules).pages = (ofModules package (sound package modules)).pages := by
  rw [pages_ofModules, pages_ofModules, ← sound, ← sound, sound_sound]

theorem failed_ofModules_sound : (ofModules package (sound package modules)).failed = [] := by
  rw [failed_ofModules, ← unsound, unsound_sound]
  rfl

/-- Every module is taken in or left out. -/
theorem indexed_append_failed_perm :
    ((ofModules package modules).indexed ++ (ofModules package modules).failed).Perm
      (modules.map Docs.ModuleDocs.name) := by
  rw [indexed_ofModules, failed_ofModules, ← List.map_append]
  exact (List.filter_append_perm _ modules).map _

theorem length_corruptions :
    (ofModules package modules).corruptions.length = (unsound package modules).length := by
  have lengths := congrArg List.length (failed_ofModules package modules)
  rwa [failed, List.length_map, List.length_map, ← unsound] at lengths

end Batch
end Catalog

namespace Session

open Catalog (Batch)

theorem failuresOf_leaveOut (tally : Tally) (package other : String) (count : Nat) :
    (tally.leaveOut package count).failuresOf other =
      tally.failuresOf other + if other = package then count else 0 := by
  rw [Tally.leaveOut]
  by_cases none : count = 0
  · rw [if_pos none, none, ite_self, Nat.add_zero]
  · rw [if_neg none, Tally.failuresOf, Table.get?_put]
    by_cases same : other = package
    · rw [if_pos same, if_pos same, same]
      rfl
    · rw [if_neg same, if_neg same]
      rfl

/-- A batch that is added, or refused, has had its modules left out before. -/
theorem failuresOf_add (session : Session) (batch : Batch) (package : String) :
    (session.add batch).2.tally.failuresOf package = session.tally.failuresOf package := by
  rw [add]
  cases Catalog.add _ _ _ <;> rfl

/-- Loading counts the modules that are left out, whether the package is added or refused. -/
theorem failuresOf_load (session : Session) (package other : String)
    (modules : List Docs.ModuleDocs) :
    (session.load package modules).2.tally.failuresOf other =
      session.tally.failuresOf other +
        if other = package then (Batch.unsound package modules).length else 0 := by
  let batch := Batch.ofModules package modules
  calc (session.load package modules).2.tally.failuresOf other
      = ((session.leaveOut batch).add batch).2.tally.failuresOf other := rfl
    _ = (session.leaveOut batch).tally.failuresOf other := failuresOf_add ..
    _ = _ := by
        rw [tally_leaveOut, failuresOf_leaveOut, Batch.package_ofModules, Batch.length_corruptions]

/-- **A module whose comment lists an unknown entry is left out whole and hurts no other.**  The
entries, the names and the pages of a package are those of its sound modules alone.  The others are
told as failed, in order, and counted for the package and no other, whatever comes of the load; so
every module that is given is told of once. -/
theorem leaves_out_whole (package : String) (modules : List Docs.ModuleDocs) :
    let sound := Batch.sound package modules
    let unsound := Batch.unsound package modules
    let batch := Batch.ofModules package modules
    let alone := Batch.ofModules package sound
    (batch.entries = alone.entries ∧ batch.names = alone.names ∧ batch.pages = alone.pages ∧
        alone.failed = []) ∧
      batch.entries = sound.flatMap (Batch.entriesOf package) ∧
      batch.names = .ofRows (batch.entries.map Batch.nameRow) ∧
      batch.failed = unsound.map Docs.ModuleDocs.name ∧
      batch.indexed = sound.map Docs.ModuleDocs.name ∧
      (batch.indexed ++ batch.failed).Perm (modules.map Docs.ModuleDocs.name) ∧
      ∀ (session : Session) (other : String),
        (session.load package modules).2.tally.failuresOf other =
          session.tally.failuresOf other + if other = package then unsound.length else 0 :=
  ⟨⟨Batch.entries_ofModules_sound package modules, Batch.names_ofModules_sound package modules,
      Batch.pages_ofModules_sound package modules, Batch.failed_ofModules_sound package modules⟩,
    Batch.entries_ofModules package modules, Batch.names_ofModules package modules,
    Batch.failed_ofModules package modules, Batch.indexed_ofModules package modules,
    Batch.indexed_append_failed_perm package modules,
    fun session other => session.failuresOf_load package other modules⟩

/-- A broken module between two that define one name. -/
example :
    let first : Docs.ModuleDocs :=
      { name := "First", comment := "", entries := .ofRows [("id", ⟨"a -> a", ""⟩)]
        named := by decide }
    let broken : Docs.ModuleDocs :=
      { name := "Broken", comment := "\n@docs id, lost", entries := .ofRows [("id", ⟨"a", ""⟩)]
        named := by decide }
    let last : Docs.ModuleDocs :=
      { name := "Last", comment := "\n@docs id", entries := .ofRows [("id", ⟨"b -> b", ""⟩)]
        named := by decide }
    let batch := Batch.ofModules "core" [first, broken, last]
    batch.failed = ["Broken"] ∧ batch.names.rows = [("id", "Last")] ∧
      batch.entries.map Catalog.Entry.module = ["First", "Last"] := by
  decide +kernel

end Session
end SignatureSearch
