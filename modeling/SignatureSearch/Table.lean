/-!
# Tables in insertion order

A table holds one value for each of its keys and lists the keys in the order in which each was
first put.  Putting a key again replaces its value and leaves the order alone.
-/

namespace SignatureSearch

/-- A finite map that remembers the order of its keys. -/
structure Table (α : Type) where
  /-- The keys with their values, first put first. -/
  rows : List (String × α)
  /-- No key is listed twice. -/
  nodup : (rows.map Prod.fst).Nodup

namespace Table

variable {α β : Type}

/-- The table without keys. -/
def empty : Table α :=
  ⟨[], by simp⟩

instance : Inhabited (Table α) := ⟨empty⟩

/-- The keys in order. -/
def keys (table : Table α) : List String :=
  table.rows.map Prod.fst

/-- The values in the order of their keys. -/
def values (table : Table α) : List α :=
  table.rows.map Prod.snd

/-- The value under a key. -/
def get? (table : Table α) (key : String) : Option α :=
  table.rows.lookup key

/-- Whether a key is in the table. -/
def contains (table : Table α) (key : String) : Bool :=
  key ∈ table.keys

/-- Rows with the value under a key replaced, or with a row added at the end. -/
def putRow (key : String) (value : α) : List (String × α) → List (String × α)
  | [] => [(key, value)]
  | row :: rows => if row.1 = key then (key, value) :: rows else row :: putRow key value rows

theorem mem_keys_putRow {key other : String} {value : α} {rows : List (String × α)} :
    other ∈ (putRow key value rows).map Prod.fst ↔ other = key ∨ other ∈ rows.map Prod.fst := by
  induction rows with
  | nil => simp [putRow]
  | cons row rows ih =>
      by_cases same : row.1 = key
      · subst same
        simp [putRow]
      · rw [putRow, if_neg same, List.map_cons, List.mem_cons, ih, List.map_cons, List.mem_cons]
        exact or_left_comm

theorem nodup_putRow (key : String) (value : α) {rows : List (String × α)}
    (nodup : (rows.map Prod.fst).Nodup) : ((putRow key value rows).map Prod.fst).Nodup := by
  induction rows with
  | nil => simp [putRow]
  | cons row rows ih =>
      rw [List.map_cons, List.nodup_cons] at nodup
      by_cases same : row.1 = key
      · subst same
        simpa [putRow] using nodup
      · rw [putRow, if_neg same, List.map_cons, List.nodup_cons, mem_keys_putRow]
        exact ⟨fun held => held.elim same nodup.1, ih nodup.2⟩

/-- The table with a value under a key. -/
def put (table : Table α) (key : String) (value : α) : Table α :=
  ⟨putRow key value table.rows, nodup_putRow key value table.nodup⟩

/-- The table with other values under the same keys. -/
def mapValues (f : String → α → β) (table : Table α) : Table β :=
  ⟨table.rows.map fun row => (row.1, f row.1 row.2), by
    simpa [Function.comp_def] using table.nodup⟩

/-- The table that results from putting rows in order. -/
def ofRows (rows : List (String × α)) : Table α :=
  rows.foldl (fun table row => table.put row.1 row.2) empty

theorem lookup_putRow (key other : String) (value : α) (rows : List (String × α)) :
    (putRow key value rows).lookup other =
      if other = key then some value else rows.lookup other := by
  induction rows with
  | nil =>
      by_cases same : other = key
      · simp [putRow, same]
      · have differs : (other == key) = false := beq_eq_false_iff_ne.mpr same
        simp [putRow, same, List.lookup_cons, differs]
  | cons row rows ih =>
      obtain ⟨first, held⟩ := row
      by_cases same : first = key
      · subst same
        by_cases hit : other = first
        · simp [putRow, hit]
        · have differs : (other == first) = false := beq_eq_false_iff_ne.mpr hit
          simp [putRow, List.lookup_cons, hit, differs]
      · by_cases hit : other = first
        · subst hit
          simp [putRow, same]
        · have differs : (other == first) = false := beq_eq_false_iff_ne.mpr hit
          simp [putRow, same, List.lookup_cons, ih, differs]

@[simp]
theorem get?_empty (key : String) : (empty : Table α).get? key = none := rfl

/-- A key reads back what was last put under it, and no other key changes. -/
theorem get?_put (table : Table α) (key other : String) (value : α) :
    (table.put key value).get? other = if other = key then some value else table.get? other :=
  lookup_putRow key other value table.rows

theorem mem_keys_put {table : Table α} {key other : String} {value : α} :
    other ∈ (table.put key value).keys ↔ other = key ∨ other ∈ table.keys :=
  mem_keys_putRow

theorem nodup_keys (table : Table α) : table.keys.Nodup :=
  table.nodup

end Table
end SignatureSearch
