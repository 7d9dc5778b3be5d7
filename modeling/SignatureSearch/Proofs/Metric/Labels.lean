import Mathlib.Data.List.Nodup
import Mathlib.Data.String.Basic
import SignatureSearch.Metric.Bridge
import SignatureSearch.Proofs.Table

/-!
# The same labels

Labels are the same in whatever order they are given.  The values in the order of a metric's names,
under which a series is scraped, and the labels in the order of their own names, under which a gauge
is remembered, both tell two sets of labels apart exactly when they differ.
-/

namespace SignatureSearch
namespace Table

variable {α : Type}

theorem nodup_rows (table : Table α) : table.rows.Nodup :=
  List.Nodup.of_map Prod.fst table.nodup

/-- Tables have the same rows in some order when they hold the same under every key. -/
theorem perm_rows_iff {table other : Table α} :
    table.rows.Perm other.rows ↔ ∀ key, table.get? key = other.get? key := by
  rw [List.perm_ext_iff_of_nodup table.nodup_rows other.nodup_rows]
  constructor
  · intro same key
    exact Option.ext fun value => by
      rw [get?_eq_some_iff, get?_eq_some_iff, same (key, value)]
  · intro same row
    rw [← get?_eq_some_iff, ← get?_eq_some_iff, same row.1]

theorem get?_isSome_of_mem_keys {table : Table α} {key : String} (listed : key ∈ table.keys) :
    ∃ value, table.get? key = some value :=
  Option.ne_none_iff_exists'.mp fun absent => get?_eq_none_iff.mp absent listed

end Table

namespace Metric
namespace LabelSet

variable {labels other : LabelSet}

/-- Two sets hold the same labels with the same values, in whatever order. -/
def Same (labels other : LabelSet) : Prop :=
  labels.rows.Perm other.rows

instance (labels other : LabelSet) : Decidable (labels.Same other) :=
  inferInstanceAs (Decidable (labels.rows.Perm other.rows))

theorem perm_sorted (labels : LabelSet) : labels.sorted.Perm labels.rows :=
  List.mergeSort_perm labels.rows mayPrecede

theorem pairwise_sorted (labels : LabelSet) :
    labels.sorted.Pairwise fun a b => mayPrecede a b = true := by
  refine List.pairwise_mergeSort ?_ ?_ labels.rows
  · intro a b c first second
    exact decide_eq_true (le_trans (of_decide_eq_true first) (of_decide_eq_true second))
  · intro a b
    rw [Bool.or_eq_true, mayPrecede, mayPrecede, decide_eq_true_iff, decide_eq_true_iff]
    exact le_total a.1 b.1

/-- Labels in the order of their names are the same list when they are the same labels. -/
theorem sorted_eq_iff : labels.sorted = other.sorted ↔ labels.Same other := by
  constructor
  · intro same
    exact labels.perm_sorted.symm.trans (same ▸ other.perm_sorted)
  · intro same
    have perm : labels.sorted.Perm other.sorted :=
      labels.perm_sorted.trans (same.trans other.perm_sorted.symm)
    refine perm.eq_of_pairwise ?_ labels.pairwise_sorted other.pairwise_sorted
    intro a b inside outside first second
    have named : a.1 = b.1 :=
      le_antisymm (of_decide_eq_true first) (of_decide_eq_true second)
    have listed : b ∈ labels.rows :=
      labels.perm_sorted.mem_iff.mp (perm.mem_iff.mpr outside)
    exact List.inj_on_of_nodup_map labels.nodup (labels.perm_sorted.mem_iff.mp inside) listed named

theorem Same.get? (same : labels.Same other) (name : String) :
    labels.get? name = other.get? name :=
  Table.perm_rows_iff.mp same name

end LabelSet

namespace Bridge

variable {α : Type} {bridge : Bridge α} {labels other : LabelSet} {key : Key}

/-- The same labels have the same key, or are refused alike. -/
theorem key?_of_same (bridge : Bridge α) (same : labels.Same other) :
    bridge.key? labels = bridge.key? other := by
  have empty : labels.rows.isEmpty = other.rows.isEmpty := by
    rw [Bool.eq_iff_iff, List.isEmpty_iff, List.isEmpty_iff]
    exact ⟨fun none => List.nil_perm.mp (none ▸ same), fun none => List.perm_nil.mp (none ▸ same)⟩
  have keys : labels.keys.Perm bridge.names ↔ other.keys.Perm bridge.names :=
    have named : labels.keys.Perm other.keys := same.map Prod.fst
    ⟨named.symm.trans, named.trans⟩
  have values : (fun name => (labels.get? name).getD "") = fun name => (other.get? name).getD "" :=
    funext fun name => by rw [same.get?]
  simp only [key?, empty, keys, values]

/-- What a key tells of its labels. -/
theorem key?_eq_ok (keyed : bridge.key? labels = .ok key) :
    labels.keys.Perm bridge.names ∧
      key = bridge.names.map fun name => (labels.get? name).getD "" := by
  rw [key?] at keyed
  split at keyed
  · rename_i empty
    split at keyed
    · rename_i unnamed
      cases keyed
      rw [Table.keys, List.isEmpty_iff.mp empty, List.isEmpty_iff.mp unnamed]
      exact ⟨.nil, rfl⟩
    · cases keyed
  · split at keyed
    · cases keyed
    · split at keyed
      · rename_i perm
        cases keyed
        exact ⟨perm, rfl⟩
      · cases keyed

/-- Labels have a key when they are those of the metric, in whatever order. -/
theorem exists_key?_iff :
    (∃ key, bridge.key? labels = .ok key) ↔ labels.keys.Perm bridge.names := by
  refine ⟨fun ⟨_, keyed⟩ => (key?_eq_ok keyed).1, fun perm => ?_⟩
  have lengths : labels.rows.length = bridge.names.length := by
    rw [← perm.length_eq, Table.keys, List.length_map]
  have alike : labels.rows.isEmpty = bridge.names.isEmpty := by
    rw [Bool.eq_iff_iff, List.isEmpty_iff_length_eq_zero, List.isEmpty_iff_length_eq_zero, lengths]
  rw [key?, alike, if_pos perm]
  cases bridge.names.isEmpty <;> exact ⟨_, rfl⟩

/-- Labels with one key are the same labels. -/
theorem same_of_key? (keyed : bridge.key? labels = .ok key)
    (otherKeyed : bridge.key? other = .ok key) : labels.Same other := by
  obtain ⟨named, written⟩ := key?_eq_ok keyed
  obtain ⟨otherNamed, otherWritten⟩ := key?_eq_ok otherKeyed
  refine Table.perm_rows_iff.mpr fun name => ?_
  by_cases listed : name ∈ bridge.names
  · have values := List.map_inj_left.mp (written.symm.trans otherWritten) name listed
    obtain ⟨value, held⟩ := Table.get?_isSome_of_mem_keys (named.mem_iff.mpr listed)
    obtain ⟨otherValue, otherHeld⟩ := Table.get?_isSome_of_mem_keys (otherNamed.mem_iff.mpr listed)
    rw [held, otherHeld, Option.getD_some, Option.getD_some] at values
    rw [held, otherHeld, values]
  · rw [Table.get?_eq_none_iff.mpr (mt named.mem_iff.mp listed),
      Table.get?_eq_none_iff.mpr (mt otherNamed.mem_iff.mp listed)]

end Bridge
end Metric
end SignatureSearch
