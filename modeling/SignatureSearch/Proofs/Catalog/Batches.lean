import Mathlib.Data.List.Basic
import SignatureSearch.Catalog.Batch
import SignatureSearch.Proofs.Table

/-!
# What a batch holds

The batch of a package is made module by module, and each of its lists is what the modules
contribute one after another.  A module whose comment lists an unknown entry contributes why it was
left out and nothing else.  Every entry that a page mentions is an entry of the page's module.
-/

namespace SignatureSearch
namespace Docs

/-- A mentioned entry is known, and it is stamped with the package. -/
theorem entry_of_mem_resolveAll {known : String → Bool} {package module name home : String}
    {pieces : List Piece} {chunks : List Chunk}
    (resolved : resolveAll known package module pieces = .ok chunks)
    (mentioned : Chunk.entry name home ∈ chunks) : home = package ∧ known name = true := by
  induction pieces generalizing chunks with
  | nil =>
      cases resolved
      cases mentioned
  | cons piece pieces ih =>
      rw [resolveAll] at resolved
      cases first : resolve known package module piece with
      | error corruption => simp [first] at resolved
      | ok chunk =>
          cases rest : resolveAll known package module pieces with
          | error corruption => simp [first, rest] at resolved
          | ok more =>
              simp only [first, rest, Except.ok.injEq] at resolved
              subst resolved
              rcases List.mem_cons.mp mentioned with rfl | later
              · cases piece with
                | prose text => cases first
                | mention listed =>
                    rw [resolve] at first
                    split at first
                    · rename_i holds
                      cases first
                      exact ⟨rfl, holds⟩
                    · cases first
              · exact ih rest later

/-- The reason why a comment cannot be resolved names the module. -/
theorem module_of_resolveAll_error {known : String → Bool} {package module : String}
    {pieces : List Piece} {corruption : Corruption}
    (refused : resolveAll known package module pieces = .error corruption) :
    corruption.module = module := by
  induction pieces with
  | nil => cases refused
  | cons piece pieces ih =>
      rw [resolveAll] at refused
      cases first : resolve known package module piece with
      | error found =>
          simp only [first, Except.error.injEq] at refused
          subst refused
          cases piece with
          | prose text => cases first
          | mention listed =>
              rw [resolve] at first
              split at first
              · cases first
              · cases first
                rfl
      | ok chunk =>
          cases rest : resolveAll known package module pieces with
          | error found =>
              simp only [first, rest, Except.error.injEq] at refused
              exact ih (rest.trans (congrArg _ refused))
          | ok more => simp [first, rest] at refused

end Docs

namespace Catalog
namespace Batch

variable {package : String} {docs : Docs.ModuleDocs}

/-- The page of a module, unless its comment lists an unknown entry. -/
def pageOf? (package : String) (docs : Docs.ModuleDocs) : Option Page :=
  (chunksOf package docs).toOption.map fun chunks => { module := docs.name, chunks }

/-- Why a module is left out, if its comment lists an unknown entry. -/
def corruption? (package : String) (docs : Docs.ModuleDocs) : Option Docs.Corruption :=
  match chunksOf package docs with
  | .error corruption => some corruption
  | .ok _ => none

/-- The comment of a module lists known entries only. -/
def isSound (package : String) (docs : Docs.ModuleDocs) : Bool :=
  (chunksOf package docs).isOk

/-- An entry's name with the module that defines it. -/
def nameRow (entry : Entry) : String × String :=
  (entry.name, entry.module)

theorem names_entriesOf (package : String) (docs : Docs.ModuleDocs) (names : Table String) :
    docs.entries.keys.foldl (fun names name => names.put name docs.name) names =
      ((entriesOf package docs).map nameRow).foldl
        (fun table row => table.put row.1 row.2) names := by
  rw [entriesOf, Table.keys, List.foldl_map, List.map_map, List.foldl_map]
  rfl

/-- Everything that the modules of a package add to a batch of it. -/
theorem foldl_add (batch : Batch) (modules : List Docs.ModuleDocs) :
    let sound := modules.filter (isSound batch.package)
    modules.foldl add batch =
      { package := batch.package
        entries := batch.entries ++ sound.flatMap (entriesOf batch.package)
        names := ((sound.flatMap (entriesOf batch.package)).map nameRow).foldl
          (fun table row => table.put row.1 row.2) batch.names
        pages := batch.pages ++ sound.filterMap (pageOf? batch.package)
        corruptions := batch.corruptions ++ modules.filterMap (corruption? batch.package) } := by
  induction modules generalizing batch with
  | nil => simp
  | cons docs modules ih =>
      dsimp only at ih ⊢
      rw [List.foldl_cons, ih]
      cases resolved : chunksOf batch.package docs with
      | error corruption =>
          have unsound : isSound batch.package docs = false := by rw [isSound, resolved]; rfl
          simp [add, resolved, unsound, corruption?]
      | ok chunks =>
          have sound : isSound batch.package docs = true := by rw [isSound, resolved]; rfl
          simp [add, resolved, sound, pageOf?, corruption?, Except.toOption,
            names_entriesOf batch.package]

section OfModules

variable (package : String) (modules : List Docs.ModuleDocs)

theorem package_ofModules : (ofModules package modules).package = package := by
  rw [ofModules, foldl_add]
  rfl

theorem entries_ofModules :
    (ofModules package modules).entries =
      (modules.filter (isSound package)).flatMap (entriesOf package) := by
  rw [ofModules, foldl_add]
  rfl

theorem names_ofModules :
    (ofModules package modules).names =
      Table.ofRows ((ofModules package modules).entries.map nameRow) := by
  rw [entries_ofModules, ofModules, foldl_add]
  rfl

theorem pages_ofModules :
    (ofModules package modules).pages =
      (modules.filter (isSound package)).filterMap (pageOf? package) := by
  rw [ofModules, foldl_add]
  rfl

theorem corruptions_ofModules :
    (ofModules package modules).corruptions = modules.filterMap (corruption? package) := by
  rw [ofModules, foldl_add]
  rfl

/-- The modules left out are those that are not sound, in order. -/
theorem failed_ofModules :
    (ofModules package modules).failed =
      (modules.filter fun docs => !isSound package docs).map Docs.ModuleDocs.name := by
  rw [failed, corruptions_ofModules]
  induction modules with
  | nil => rfl
  | cons docs modules ih =>
      cases resolved : chunksOf package docs with
      | error corruption =>
          have unsound : isSound package docs = false := by rw [isSound, resolved]; rfl
          have named := Docs.module_of_resolveAll_error resolved
          rw [List.filterMap_cons_some (by rw [corruption?, resolved]), List.map_cons, ih, named,
            List.filter_cons_of_pos (by rw [unsound]; rfl), List.map_cons]
      | ok chunks =>
          have sound : isSound package docs = true := by rw [isSound, resolved]; rfl
          rw [List.filterMap_cons_none (by rw [corruption?, resolved]), ih,
            List.filter_cons_of_neg (by simp [sound])]

/-- The modules taken in are the sound ones. -/
theorem indexed_ofModules :
    (ofModules package modules).indexed =
      (modules.filter (isSound package)).map Docs.ModuleDocs.name := by
  rw [indexed, pages_ofModules, List.map_filterMap, ← List.filterMap_eq_map]
  refine List.filterMap_congr fun docs member => ?_
  have sound := (List.mem_filter.mp member).2
  rw [isSound] at sound
  rw [pageOf?]
  cases resolved : chunksOf package docs with
  | error corruption => simp [resolved, Except.isOk, Except.toBool] at sound
  | ok chunks => rfl

end OfModules

theorem package_of_mem_entriesOf {entry : Entry} (member : entry ∈ entriesOf package docs) :
    entry.package = package ∧ entry.module = docs.name := by
  obtain ⟨row, -, rfl⟩ := List.mem_map.mp member
  exact ⟨rfl, rfl⟩

/-- Entries of a batch are entries of its package. -/
theorem package_of_mem_entries {modules : List Docs.ModuleDocs} {entry : Entry}
    (member : entry ∈ (ofModules package modules).entries) : entry.package = package := by
  rw [entries_ofModules, List.mem_flatMap] at member
  obtain ⟨docs, -, inside⟩ := member
  exact (package_of_mem_entriesOf inside).1

/-- The name of each entry of a batch leads to a module. -/
theorem get?_names_ofModules (modules : List Docs.ModuleDocs) (name : String) :
    (ofModules package modules).names.get? name =
      ((((ofModules package modules).entries).filter fun entry => entry.name = name).getLast?).map
        Entry.module := by
  rw [names_ofModules, Table.get?_ofRows, List.filter_map, List.getLast?_map, Option.map_map]
  rfl

theorem keys_names_ofModules (modules : List Docs.ModuleDocs) :
    (ofModules package modules).names.keys =
      ((ofModules package modules).entries.map Entry.name).eraseDups := by
  rw [names_ofModules, Table.keys_ofRows, List.map_map]
  rfl

/-- Every entry of a batch comes from a module whose page the batch has. -/
theorem page_of_mem_batch {modules : List Docs.ModuleDocs} {entry : Entry}
    (member : entry ∈ (ofModules package modules).entries) :
    ∃ docs ∈ modules, entry ∈ entriesOf package docs ∧
      ∃ page ∈ (ofModules package modules).pages,
        page.module = entry.module ∧ chunksOf package docs = .ok page.chunks := by
  rw [entries_ofModules, List.mem_flatMap] at member
  obtain ⟨docs, kept, owned⟩ := member
  obtain ⟨given, sound⟩ := List.mem_filter.mp kept
  obtain ⟨-, named⟩ := package_of_mem_entriesOf owned
  rw [isSound] at sound
  cases resolved : chunksOf package docs with
  | error corruption =>
      rw [resolved] at sound
      cases sound
  | ok chunks =>
      refine ⟨docs, given, owned, { module := docs.name, chunks }, ?_, named.symm, resolved⟩
      rw [pages_ofModules, List.mem_filterMap]
      exact ⟨docs, kept, by rw [pageOf?, resolved]; rfl⟩

/-- What a page mentions is an entry of its module, which the batch has. -/
theorem mentioned_of_mem_pages {modules : List Docs.ModuleDocs} {page : Page} {name home : String}
    (listed : page ∈ (ofModules package modules).pages)
    (mentioned : Docs.Chunk.entry name home ∈ page.chunks) :
    home = package ∧ ∃ entry ∈ (ofModules package modules).entries,
      entry.package = package ∧ entry.module = page.module ∧ entry.name = name := by
  rw [pages_ofModules, List.mem_filterMap] at listed
  obtain ⟨docs, kept, shown⟩ := listed
  cases resolved : chunksOf package docs with
  | error corruption => simp [pageOf?, resolved, Except.toOption] at shown
  | ok chunks =>
      simp only [pageOf?, resolved, Except.toOption, Option.map_some, Option.some.injEq] at shown
      subst shown
      obtain ⟨stamped, known⟩ := Docs.entry_of_mem_resolveAll resolved mentioned
      obtain ⟨⟨listed, held⟩, inside, rfl⟩ := List.mem_map.mp (Table.contains_iff.mp known)
      have owned : ⟨package, docs.name, listed, held.signature, held.doc⟩ ∈
          entriesOf package docs :=
        List.mem_map.mpr ⟨_, inside, rfl⟩
      have gathered : ⟨package, docs.name, listed, held.signature, held.doc⟩ ∈
          (ofModules package modules).entries := by
        rw [entries_ofModules, List.mem_flatMap]
        exact ⟨docs, kept, owned⟩
      exact ⟨stamped, _, gathered, rfl, rfl, rfl⟩

end Batch
end Catalog
end SignatureSearch
