import Mathlib.Data.List.Induction
import SignatureSearch.Table

/-!
# Tables made of rows

Rows put one after another make a table whose keys are listed by their first appearance and whose
values are those of the last row under each key.
-/

namespace SignatureSearch
namespace Table

variable {α : Type}

theorem putRow_of_new {key : String} {value : α} {rows : List (String × α)}
    (new : key ∉ rows.map Prod.fst) : putRow key value rows = rows ++ [(key, value)] := by
  induction rows with
  | nil => rfl
  | cons row rows ih =>
      rw [List.map_cons, List.mem_cons, not_or] at new
      rw [putRow, if_neg (Ne.symm new.1), ih new.2, List.cons_append]

theorem map_fst_putRow_of_old {key : String} {value : α} {rows : List (String × α)}
    (old : key ∈ rows.map Prod.fst) : (putRow key value rows).map Prod.fst = rows.map Prod.fst := by
  induction rows with
  | nil => cases old
  | cons row rows ih =>
      by_cases same : row.1 = key
      · rw [putRow, if_pos same, List.map_cons, List.map_cons, same]
      · have later : key ∈ rows.map Prod.fst := (List.mem_cons.mp old).resolve_left (Ne.symm same)
        rw [putRow, if_neg same, List.map_cons, List.map_cons, ih later]

/-- A new key comes last, and a key that is there keeps its place. -/
theorem keys_put (table : Table α) (key : String) (value : α) :
    (table.put key value).keys = if key ∈ table.keys then table.keys else table.keys ++ [key] := by
  split
  · rename_i old
    exact map_fst_putRow_of_old old
  · rename_i new
    change (putRow key value table.rows).map Prod.fst = _
    rw [putRow_of_new new, List.map_append]
    rfl

theorem rows_put_of_new {table : Table α} {key : String} (value : α) (new : key ∉ table.keys) :
    (table.put key value).rows = table.rows ++ [(key, value)] :=
  putRow_of_new new

theorem contains_iff {table : Table α} {key : String} :
    table.contains key = true ↔ key ∈ table.keys := by
  rw [contains, decide_eq_true_iff]

theorem get?_eq_some_iff {table : Table α} {key : String} {value : α} :
    table.get? key = some value ↔ (key, value) ∈ table.rows := by
  rw [get?, List.lookup_eq_some_iff]
  constructor
  · rintro ⟨front, back, split, -⟩
    rw [split]
    exact List.mem_append_right _ List.mem_cons_self
  · intro member
    obtain ⟨front, back, split⟩ := List.append_of_mem member
    refine ⟨front, back, split, fun row inside => ?_⟩
    have nodup := table.nodup
    rw [split, List.map_append, List.nodup_append] at nodup
    exact bne_iff_ne.mpr (nodup.2.2 row.1 (List.mem_map_of_mem inside) key (by simp)).symm

theorem get?_eq_none_iff {table : Table α} {key : String} :
    table.get? key = none ↔ key ∉ table.keys := by
  rw [get?, List.lookup_eq_none_iff, keys, List.mem_map]
  constructor
  · rintro differs ⟨row, inside, same⟩
    exact absurd same.symm (bne_iff_ne.mp (differs row inside))
  · intro absent row inside
    exact bne_iff_ne.mpr fun same => absent ⟨row, inside, same.symm⟩

/-! ## Rows one after another -/

theorem ofRows_append_singleton (rows : List (String × α)) (row : String × α) :
    ofRows (rows ++ [row]) = (ofRows rows).put row.1 row.2 := by
  rw [ofRows, List.foldl_append]
  rfl

/-- One more item counts only if it is new. -/
theorem eraseDups_append_singleton (items : List String) (item : String) :
    (items ++ [item]).eraseDups =
      if item ∈ items then items.eraseDups else items.eraseDups ++ [item] := by
  rw [List.eraseDups_append]
  split
  · rename_i old
    simp [List.removeAll, old]
  · rename_i new
    simp [List.removeAll, new, List.eraseDups_cons]

/-- The keys are listed by their first appearance. -/
theorem keys_ofRows (rows : List (String × α)) :
    (ofRows rows).keys = (rows.map Prod.fst).eraseDups := by
  induction rows using List.reverseRecOn with
  | nil => rfl
  | append_singleton rows row ih =>
      rw [ofRows_append_singleton, keys_put, ih, List.map_append, List.map_singleton,
        eraseDups_append_singleton]
      simp only [List.mem_eraseDups]

/-- The last row under a key holds its value. -/
theorem get?_ofRows (rows : List (String × α)) (key : String) :
    (ofRows rows).get? key =
      ((rows.filter fun row => row.1 = key).getLast?).map Prod.snd := by
  induction rows using List.reverseRecOn with
  | nil => rfl
  | append_singleton rows row ih =>
      rw [ofRows_append_singleton, get?_put, List.filter_append]
      by_cases same : row.1 = key
      · simp [same]
      · rw [if_neg (Ne.symm same), ih]
        simp [same]

/-- What a key holds is the value of a row after which the key has no other. -/
theorem get?_ofRows_eq_some_iff {rows : List (String × α)} {key : String} {value : α} :
    (ofRows rows).get? key = some value ↔
      ∃ before after, rows = before ++ (key, value) :: after ∧ key ∉ after.map Prod.fst := by
  induction rows using List.reverseRecOn with
  | nil => simp [ofRows]
  | append_singleton rows row ih =>
      rw [ofRows_append_singleton, get?_put]
      by_cases same : key = row.1
      · rw [if_pos same]
        constructor
        · intro held
          exact ⟨rows, [], by rw [same, ← Option.some.inj held], by simp⟩
        · rintro ⟨before, after, split, last⟩
          rcases List.eq_nil_or_concat after with rfl | ⟨init, final, rfl⟩
          · obtain ⟨-, rfl⟩ := List.append_singleton_inj.mp split
            rfl
          · rw [List.concat_eq_append, ← List.cons_append, ← List.append_assoc] at split
            obtain ⟨-, rfl⟩ := List.append_singleton_inj.mp split
            simp [same] at last
      · rw [if_neg same, ih]
        constructor
        · rintro ⟨before, after, rfl, last⟩
          exact ⟨before, after ++ [row], by simp, by simp [last, same]⟩
        · rintro ⟨before, after, split, last⟩
          rcases List.eq_nil_or_concat after with rfl | ⟨init, final, rfl⟩
          · obtain ⟨-, rfl⟩ := List.append_singleton_inj.mp split
            exact absurd rfl same
          · rw [List.concat_eq_append, ← List.cons_append, ← List.append_assoc] at split
            obtain ⟨rfl, -⟩ := List.append_singleton_inj.mp split
            refine ⟨before, init, rfl, fun listed => last ?_⟩
            simp only [List.concat_eq_append, List.map_append]
            exact List.mem_append_left _ listed

end Table
end SignatureSearch
