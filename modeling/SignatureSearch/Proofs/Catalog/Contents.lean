import SignatureSearch.Catalog.Basic
import SignatureSearch.Proofs.Catalog.Batches
import SignatureSearch.Proofs.Catalog.Slots

/-!
# What a catalogue holds

A catalogue to which batches have been added holds their entries one batch after another, and on the
shelf of each package the names and pages of its batch.  All that can be asked of a catalogue
follows from that: the names that a package defines are the names of its entries, and a name leads
to the module of its last entry.
-/

namespace SignatureSearch
namespace Catalog

/-- A package given to be loaded. -/
structure Delivery where
  /-- The package. -/
  package : String
  /-- Its modules. -/
  modules : List Docs.ModuleDocs

namespace Delivery

/-- What a package adds to the catalogue. -/
def batch (delivery : Delivery) : Batch :=
  Batch.ofModules delivery.package delivery.modules

/-- What the catalogue knows of a package apart from its entries. -/
def shelf (delivery : Delivery) : Shelf :=
  { names := delivery.batch.names, pages := delivery.batch.pages }

theorem given_or_absent (deliveries : List Delivery) (package : String) :
    (∃ delivery ∈ deliveries, delivery.package = package) ∨
      ∀ delivery ∈ deliveries, delivery.package ≠ package := by
  rw [or_iff_not_imp_left]
  intro absent delivery member same
  exact absent ⟨delivery, member, same⟩

theorem package_of_mem_batch {delivery : Delivery} {entry : Entry}
    (member : entry ∈ delivery.batch.entries) : entry.package = delivery.package :=
  Batch.package_of_mem_entries member

end Delivery

/-- A catalogue holds what packages add to it, in the order of the packages. -/
structure Holds (deliveries : List Delivery) (catalog : Catalog) : Prop where
  /-- The entries, package by package. -/
  entries : catalog.entries = deliveries.flatMap fun delivery => delivery.batch.entries
  /-- One shelf for each package. -/
  shelves : catalog.shelves.rows =
    deliveries.map fun delivery => (delivery.package, delivery.shelf)

theorem entries_slotsOf (eager : Bool) (batch : Batch) :
    (slotsOf eager batch).map Slot.entry = batch.entries := by
  rw [slotsOf, List.map_map]
  refine (List.map_congr_left fun entry _ => ?_).trans (List.map_id _)
  cases eager with
  | true => exact Slot.entry_settle _
  | false => rfl

/-- A batch is refused exactly when its package is there. -/
theorem add_eq_error_iff {catalog : Catalog} {batch : Batch} {eager : Bool}
    {refused : AlreadyIndexed} :
    catalog.add batch eager = .error refused ↔
      batch.package ∈ catalog.packages ∧ refused = { package := batch.package } := by
  rw [add, packages]
  by_cases known : catalog.shelves.contains batch.package = true
  · rw [if_pos known, Except.error.injEq, and_iff_right (Table.contains_iff.mp known), eq_comm]
  · rw [if_neg known]
    exact iff_of_false (by simp) fun both => known (Table.contains_iff.mpr both.1)

/-- A batch that is taken in leaves what was there and comes after it. -/
theorem add_eq_ok {catalog grown : Catalog} {batch : Batch} {eager : Bool}
    (added : catalog.add batch eager = .ok grown) :
    batch.package ∉ catalog.packages ∧ grown.slots = catalog.slots ++ slotsOf eager batch ∧
      grown.shelves =
        catalog.shelves.put batch.package { names := batch.names, pages := batch.pages } := by
  rw [add] at added
  split at added
  · cases added
  · rename_i unknown
    cases added
    exact ⟨mt Table.contains_iff.mpr unknown, rfl, rfl⟩

theorem entries_add {catalog grown : Catalog} {batch : Batch} {eager : Bool}
    (added : catalog.add batch eager = .ok grown) :
    grown.entries = catalog.entries ++ batch.entries := by
  obtain ⟨-, slots, -⟩ := add_eq_ok added
  rw [entries, slots, List.map_append, entries_slotsOf]
  rfl

namespace Holds

theorem empty : Holds [] .empty :=
  ⟨rfl, rfl⟩

variable {deliveries : List Delivery} {catalog : Catalog}

theorem add (holds : Holds deliveries catalog) {delivery : Delivery} {eager : Bool}
    {grown : Catalog} (added : catalog.add delivery.batch eager = .ok grown) :
    Holds (deliveries ++ [delivery]) grown := by
  obtain ⟨new, -, shelves⟩ := add_eq_ok added
  have named : delivery.batch.package = delivery.package := Batch.package_ofModules _ _
  constructor
  · rw [entries_add added, holds.entries, List.flatMap_append, List.flatMap_singleton]
  · rw [shelves, Table.rows_put_of_new _ new, holds.shelves, named, List.map_append]
    rfl

/-- The catalogue lists the packages in order. -/
theorem packages_eq (holds : Holds deliveries catalog) :
    catalog.packages = deliveries.map Delivery.package := by
  rw [packages, Table.keys, holds.shelves, List.map_map]
  rfl

theorem nodup (holds : Holds deliveries catalog) : (deliveries.map Delivery.package).Nodup := by
  rw [← holds.packages_eq]
  exact catalog.shelves.nodup_keys

theorem shelf_eq (holds : Holds deliveries catalog) {delivery : Delivery}
    (member : delivery ∈ deliveries) :
    catalog.shelves.get? delivery.package = some delivery.shelf := by
  rw [Table.get?_eq_some_iff, holds.shelves]
  exact List.mem_map_of_mem member

theorem shelf_eq_none (holds : Holds deliveries catalog) {package : String}
    (absent : ∀ delivery ∈ deliveries, delivery.package ≠ package) :
    catalog.shelves.get? package = none := by
  rw [Table.get?_eq_none_iff, Table.keys, holds.shelves, List.map_map, List.mem_map]
  rintro ⟨delivery, member, same⟩
  exact absent delivery member same

/-- The entries of a package are those of its batch, in one block. -/
theorem filter_entries (holds : Holds deliveries catalog) {delivery : Delivery}
    (member : delivery ∈ deliveries) :
    catalog.entries.filter (fun entry => entry.package = delivery.package) =
      delivery.batch.entries := by
  have nodup := holds.nodup
  obtain ⟨front, back, split⟩ := List.append_of_mem member
  have away : ∀ others : List Delivery, (∀ other ∈ others, other.package ≠ delivery.package) →
      (others.flatMap fun other => other.batch.entries).filter
        (fun entry => entry.package = delivery.package) = [] := by
    intro others differ
    rw [List.filter_eq_nil_iff]
    intro entry inside
    obtain ⟨other, listed, owned⟩ := List.mem_flatMap.mp inside
    rw [decide_eq_true_iff, Delivery.package_of_mem_batch owned]
    exact differ other listed
  have here : delivery.batch.entries.filter (fun entry => entry.package = delivery.package) =
      delivery.batch.entries := by
    rw [List.filter_eq_self]
    intro entry inside
    exact decide_eq_true (Delivery.package_of_mem_batch inside)
  rw [split, List.map_append, List.map_cons, List.nodup_append, List.nodup_cons] at nodup
  obtain ⟨-, ⟨later, -⟩, earlier⟩ := nodup
  have before : ∀ other ∈ front, other.package ≠ delivery.package := fun other listed =>
    earlier _ (List.mem_map_of_mem listed) _ List.mem_cons_self
  have after : ∀ other ∈ back, other.package ≠ delivery.package := fun other listed same =>
    later (same ▸ List.mem_map_of_mem listed)
  rw [holds.entries, split, List.flatMap_append, List.flatMap_cons, List.filter_append,
    List.filter_append, away front before, away back after, here, List.nil_append, List.append_nil]

theorem filter_entries_eq_nil (holds : Holds deliveries catalog) {package : String}
    (absent : ∀ delivery ∈ deliveries, delivery.package ≠ package) :
    catalog.entries.filter (fun entry => entry.package = package) = [] := by
  rw [List.filter_eq_nil_iff, holds.entries]
  intro entry inside
  obtain ⟨delivery, member, owned⟩ := List.mem_flatMap.mp inside
  rw [decide_eq_true_iff, Delivery.package_of_mem_batch owned]
  exact absent delivery member

/-- A package defines the names of its entries, in order of first appearance. -/
theorem keys_names (holds : Holds deliveries catalog) (package : String) :
    (catalog.names package).keys =
      ((catalog.entries.filter fun entry => entry.package = package).map
        Entry.name).eraseDups := by
  rcases Delivery.given_or_absent deliveries package with ⟨delivery, member, rfl⟩ | absent
  · rw [names, holds.shelf_eq member, holds.filter_entries member]
    exact Batch.keys_names_ofModules _
  · rw [names, holds.shelf_eq_none absent, holds.filter_entries_eq_nil absent]
    rfl

/-- A name leads to the module of its last entry in the package. -/
theorem linkTarget?_eq (holds : Holds deliveries catalog) (package name : String) :
    catalog.linkTarget? package name =
      ((catalog.entries.filter fun entry =>
        entry.package = package ∧ entry.name = name).getLast?).map Entry.module := by
  have twice : (catalog.entries.filter fun entry => entry.package = package ∧ entry.name = name) =
      (catalog.entries.filter fun entry => entry.package = package).filter
        fun entry => entry.name = name := by
    rw [List.filter_filter]
    refine List.filter_congr fun entry _ => ?_
    rw [Bool.decide_and, Bool.and_comm]
  rw [linkTarget?, names, twice]
  rcases Delivery.given_or_absent deliveries package with ⟨delivery, member, rfl⟩ | absent
  · rw [holds.shelf_eq member, holds.filter_entries member]
    exact Batch.get?_names_ofModules _ name
  · rw [holds.shelf_eq_none absent, holds.filter_entries_eq_nil absent]
    rfl

theorem pages_eq (holds : Holds deliveries catalog) {delivery : Delivery}
    (member : delivery ∈ deliveries) : catalog.pages delivery.package = delivery.batch.pages := by
  rw [pages, holds.shelf_eq member]
  rfl

theorem pages_eq_nil (holds : Holds deliveries catalog) {package : String}
    (absent : ∀ delivery ∈ deliveries, delivery.package ≠ package) :
    catalog.pages package = [] := by
  rw [pages, holds.shelf_eq_none absent]
  rfl

/-- What a page mentions is an entry of its module and leads somewhere. -/
theorem mentioned (holds : Holds deliveries catalog) {package name home : String} {page : Page}
    (listed : page ∈ catalog.pages package)
    (mentioned : Docs.Chunk.entry name home ∈ page.chunks) :
    home = package ∧
      (∃ entry ∈ catalog.entries,
        entry.package = package ∧ entry.module = page.module ∧ entry.name = name) ∧
      catalog.linkTarget? package name ≠ none := by
  rcases Delivery.given_or_absent deliveries package with ⟨delivery, member, rfl⟩ | absent
  · rw [holds.pages_eq member] at listed
    obtain ⟨stamped, entry, inside, owned, housed, named⟩ :=
      Batch.mentioned_of_mem_pages listed mentioned
    have indexed : entry ∈ catalog.entries := by
      rw [holds.entries]
      exact List.mem_flatMap.mpr ⟨delivery, member, inside⟩
    refine ⟨stamped, ⟨entry, indexed, owned, housed, named⟩, ?_⟩
    rw [holds.linkTarget?_eq, ne_eq, Option.map_eq_none_iff, List.getLast?_eq_none_iff]
    exact List.ne_nil_of_mem
      (List.mem_filter.mpr ⟨indexed, decide_eq_true ⟨owned, named⟩⟩)
  · rw [holds.pages_eq_nil absent] at listed
    cases listed

/-- Every entry comes from a module whose page is there. -/
theorem page_of_mem_entries (holds : Holds deliveries catalog) {entry : Entry}
    (member : entry ∈ catalog.entries) :
    ∃ delivery ∈ deliveries, delivery.package = entry.package ∧
      ∃ docs ∈ delivery.modules, entry ∈ Batch.entriesOf entry.package docs ∧
        ∃ page ∈ catalog.pages entry.package, page.module = entry.module ∧
          Batch.chunksOf entry.package docs = .ok page.chunks := by
  rw [holds.entries] at member
  obtain ⟨delivery, given, inside⟩ := List.mem_flatMap.mp member
  have owned := Delivery.package_of_mem_batch inside
  obtain ⟨docs, listed, ownedBy, page, shown, rest⟩ := Batch.page_of_mem_batch inside
  rw [owned, holds.pages_eq given]
  exact ⟨delivery, given, rfl, docs, listed, ownedBy, page, shown, rest⟩

end Holds
end Catalog
end SignatureSearch
