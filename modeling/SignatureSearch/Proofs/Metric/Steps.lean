import SignatureSearch.Proofs.Metric.Labels

/-!
# What one amount does

What is handed over is either refused, and then nothing that can be read of a metric changes, or it
is recorded, and then only the labels that are told see a difference: their series has one more
amount in it, and what is pushed is pushed for them.
-/

namespace SignatureSearch
namespace Metric
namespace Bridge

theorem lookup_store {κ β : Type} [BEq κ] [LawfulBEq κ] [DecidableEq κ] (key other : κ) (value : β)
    (rows : List (κ × β)) :
    (store key value rows).lookup other =
      if other = key then some value else rows.lookup other := by
  induction rows with
  | nil =>
      by_cases same : other = key
      · rw [store, same, List.lookup_cons_self, if_pos rfl]
      · rw [store, List.lookup_cons, beq_false_of_ne same, if_neg same]
  | cons row rows ih =>
      rw [store]
      by_cases old : row.1 = key
      · rw [if_pos old, List.lookup_cons, List.lookup_cons, old]
        by_cases same : other = key
        · rw [same, beq_self_eq_true, if_pos rfl]
        · rw [beq_false_of_ne same, if_neg same]
      · rw [if_neg old, List.lookup_cons, List.lookup_cons, ih]
        by_cases here : other = row.1
        · rw [here, beq_self_eq_true]
          exact (if_neg old).symm
        · rw [beq_false_of_ne here]

variable {α : Type} {bridge : Bridge α} {labels other : LabelSet} {key : Key}

/-- The amounts pushed for labels, in the order in which they were. -/
def pushed (bridge : Bridge α) (labels : LabelSet) : List α :=
  (bridge.calls.filter fun call => call.labels.Same labels).map Call.amount

theorem pushed_congr {after : Bridge α} (same : after.calls = bridge.calls) (labels : LabelSet) :
    after.pushed labels = bridge.pushed labels := by
  rw [pushed, pushed, same]

theorem pushed_of_calls {after : Bridge α} {amount : α}
    (more : after.calls = bridge.calls ++ [⟨labels, amount⟩]) (other : LabelSet) :
    after.pushed other = bridge.pushed other ++ if labels.Same other then [amount] else [] := by
  rw [pushed, pushed, more, List.filter_append, List.map_append]
  by_cases same : labels.Same other <;> simp [same]

theorem key?_congr {after : Bridge α} (kind : after.kind = bridge.kind)
    (names : after.names = bridge.names) (labels : LabelSet) :
    after.key? labels = bridge.key? labels := by
  rw [key?, key?, kind, names]

variable [Measure α]

/-! ## Series -/

theorem scraped_scrape (bridge : Bridge α) (key other : Key) (series : Series α) :
    (bridge.scrape key series).scraped other =
      if other = key then series else bridge.scraped other := by
  rw [scraped, at?, scrape]
  dsimp only
  rw [lookup_store]
  split
  · rfl
  · rfl

theorem scraped_opened (bridge : Bridge α) (key other : Key) :
    (bridge.opened key).scraped other = bridge.scraped other := by
  rw [opened, scraped_scrape]
  split
  · rename_i same
    rw [same]
  · rfl

theorem shown_of_key? (keyed : bridge.key? labels = .ok key) :
    bridge.shown labels = bridge.scraped key := by
  rw [shown, keyed]

theorem shown_of_same (bridge : Bridge α) (same : labels.Same other) :
    bridge.shown labels = bridge.shown other := by
  rw [shown, shown, bridge.key?_of_same same]

theorem shown_congr {after : Bridge α} (kind : after.kind = bridge.kind)
    (names : after.names = bridge.names)
    (scraped : ∀ key, after.scraped key = bridge.scraped key) (labels : LabelSet) :
    after.shown labels = bridge.shown labels := by
  rw [shown, shown, key?_congr kind names]
  split
  · rename_i key _
    exact scraped key
  · rfl

/-- A series changes for the labels that have its key, and for no others. -/
theorem shown_of_scraped {after : Bridge α} {series : Series α}
    (keyed : bridge.key? labels = .ok key) (kind : after.kind = bridge.kind)
    (names : after.names = bridge.names)
    (changed : ∀ other, after.scraped other = if other = key then series else bridge.scraped other)
    (other : LabelSet) :
    after.shown other = if labels.Same other then series else bridge.shown other := by
  rw [shown, shown, key?_congr kind names]
  split
  · rename_i otherKey otherKeyed
    rw [changed]
    by_cases same : labels.Same other
    · have agree : otherKey = key := by
        rw [← bridge.key?_of_same same, keyed] at otherKeyed
        exact (Except.ok.inj otherKeyed).symm
      rw [if_pos agree, if_pos same]
    · have differ : otherKey ≠ key := fun agree => same (same_of_key? keyed (agree ▸ otherKeyed))
      rw [if_neg differ, if_neg same]
  · rename_i refused
    have differ : ¬labels.Same other := fun same => by
      rw [← bridge.key?_of_same same, keyed] at refused
      cases refused
    rw [if_neg differ]

/-! ## Refused and recorded -/

/-- Nothing that can be read of one metric differs from what can be read of another. -/
structure SameStores (bridge after : Bridge α) : Prop where
  kind : after.kind = bridge.kind
  names : after.names = bridge.names
  shown : ∀ labels, after.shown labels = bridge.shown labels
  calls : after.calls = bridge.calls
  remembered : after.remembered = bridge.remembered

theorem SameStores.refl (bridge : Bridge α) : SameStores bridge bridge :=
  ⟨rfl, rfl, fun _ => rfl, rfl, rfl⟩

theorem sameStores_opened (bridge : Bridge α) (key : Key) : SameStores bridge (bridge.opened key) :=
  ⟨rfl, rfl, shown_congr rfl rfl (bridge.scraped_opened key), rfl, rfl⟩

/-- What recording an amount changes, when it is not refused. -/
structure Recorded (bridge : Bridge α) (labels : LabelSet) (amount kept : α) (after : Bridge α) :
    Prop where
  kind : after.kind = bridge.kind
  names : after.names = bridge.names
  /-- The series of the labels has one more amount in it; a gauge shows the amount itself, and
  anything else the sum. -/
  shown : ∀ other, after.shown other =
    if labels.Same other then
      { value :=
          if bridge.kind = .gauge then kept else Measure.add (bridge.shown other).value kept
        count := (bridge.shown other).count + 1 }
    else bridge.shown other
  /-- The amount is pushed, or for a gauge the change, if it is one. -/
  pushed : ∀ other, after.pushed other = bridge.pushed other ++
    if labels.Same other then
      if bridge.kind = .gauge then
        let change := Measure.sub amount (bridge.previous labels.sorted)
        if Measure.isZero change then [] else [change]
      else [amount]
    else []
  /-- A gauge remembers the amount. -/
  previous : ∀ other : LabelSet, after.previous other.sorted =
    if bridge.kind = .gauge ∧ labels.Same other then amount else bridge.previous other.sorted

theorem shown_enter (keyed : bridge.key? labels = .ok key) (value : α) (after : Bridge α)
    (kind : after.kind = bridge.kind) (names : after.names = bridge.names)
    (series : after.series = ((bridge.opened key).enter key value).series) (other : LabelSet) :
    after.shown other =
      if labels.Same other then { value, count := (bridge.shown other).count + 1 }
      else bridge.shown other := by
  have entered : ∀ otherKey, after.scraped otherKey =
      if otherKey = key then { value, count := (bridge.scraped key).count + 1 }
      else bridge.scraped otherKey := by
    intro otherKey
    have same :
        after.scraped otherKey = ((bridge.opened key).enter key value).scraped otherKey := by
      rw [scraped, scraped, at?, at?, series]
    rw [same, enter, scraped_scrape, scraped_opened, scraped_opened]
  rw [shown_of_scraped keyed kind names entered]
  by_cases same : labels.Same other
  · rw [if_pos same, if_pos same, ← bridge.shown_of_same same, shown_of_key? keyed]
  · rw [if_neg same, if_neg same]

/-! A gauge is set in the same way whether or not there is a change to push. -/

section Assign

variable (bridge : Bridge α) (labels : LabelSet) (key : Key) (kept amount : α)

theorem kind_assign : (bridge.assign labels key kept amount).kind = bridge.kind := by
  rw [assign]
  split <;> rfl

theorem names_assign : (bridge.assign labels key kept amount).names = bridge.names := by
  rw [assign]
  split <;> rfl

theorem series_assign :
    (bridge.assign labels key kept amount).series = (bridge.enter key kept).series := by
  rw [assign]
  split <;> rfl

theorem remembered_assign : (bridge.assign labels key kept amount).remembered =
    store labels.sorted amount bridge.remembered := by
  rw [assign]
  split <;> rfl

theorem calls_assign : (bridge.assign labels key kept amount).calls =
    if Measure.isZero (Measure.sub amount (bridge.previous labels.sorted)) then bridge.calls
    else bridge.calls ++ [⟨labels, Measure.sub amount (bridge.previous labels.sorted)⟩] := by
  rw [assign]
  split <;> rfl

end Assign

theorem recorded_accumulate (keyed : bridge.key? labels = .ok key) (kind : bridge.kind ≠ .gauge)
    (kept amount : α) :
    Recorded bridge labels amount kept ((bridge.opened key).accumulate labels key kept amount) where
  kind := rfl
  names := rfl
  shown other := by
    have entered := shown_enter keyed (Measure.add ((bridge.opened key).scraped key).value kept)
      ((bridge.opened key).accumulate labels key kept amount) rfl rfl rfl
    rw [entered, if_neg kind]
    by_cases same : labels.Same other
    · rw [if_pos same, if_pos same, scraped_opened, ← shown_of_key? keyed,
        bridge.shown_of_same same]
    · rw [if_neg same, if_neg same]
  pushed other := by
    rw [if_neg kind]
    exact pushed_of_calls rfl other
  previous other := by
    rw [if_neg fun both => kind both.1]
    rfl

theorem recorded_assign (keyed : bridge.key? labels = .ok key) (kind : bridge.kind = .gauge)
    (kept amount : α) :
    Recorded bridge labels amount kept ((bridge.opened key).assign labels key kept amount) where
  kind := kind_assign ..
  names := names_assign ..
  shown other := by
    have entered := shown_enter keyed kept
      ((bridge.opened key).assign labels key kept amount) (kind_assign ..) (names_assign ..)
      (series_assign ..)
    rw [entered, if_pos kind]
  pushed other := by
    rw [if_pos kind]
    have calls := (bridge.opened key).calls_assign labels key kept amount
    by_cases zero : Measure.isZero (Measure.sub amount (bridge.previous labels.sorted)) = true
    · rw [pushed_congr (calls.trans (if_pos zero)), if_pos zero, ite_self, List.append_nil]
      rfl
    · rw [pushed_of_calls (calls.trans (if_neg zero)), if_neg zero]
      rfl
  previous other := by
    rw [previous, remembered_assign, lookup_store]
    by_cases same : labels.Same other
    · rw [if_pos (LabelSet.sorted_eq_iff.mpr same).symm, if_pos ⟨kind, same⟩, Option.getD_some]
    · rw [if_neg (mt Eq.symm (mt LabelSet.sorted_eq_iff.mp same)), if_neg fun both => same both.2]
      rfl

/-- An amount for labels can be recorded: the labels are those of the metric, a counter does not
shrink, and the amount is not too large. -/
def Accepts (bridge : Bridge α) (labels : LabelSet) (amount : α) : Prop :=
  labels.keys.Perm bridge.names ∧ ¬(bridge.kind = .counter ∧ Measure.isNegative amount = true) ∧
    ∃ kept, Measure.kept? amount = some kept

/-- What comes of an amount that is recorded, or is not. -/
theorem record_cases (bridge : Bridge α) (labels : LabelSet) (amount : α) :
    (∃ refusal after, bridge.record labels amount = (.error refusal, after) ∧
        ¬bridge.Accepts labels amount ∧ SameStores bridge after) ∨
      ∃ kept after, bridge.record labels amount = (.ok (), after) ∧
        bridge.Accepts labels amount ∧ Measure.kept? amount = some kept ∧
        Recorded bridge labels amount kept after := by
  rw [record]
  cases keyed : bridge.key? labels with
  | error refusal =>
      have strange : ¬bridge.Accepts labels amount := fun accepts => by
        obtain ⟨key, same⟩ := exists_key?_iff.mpr accepts.1
        rw [keyed] at same
        cases same
      exact .inl ⟨refusal, bridge, rfl, strange, .refl bridge⟩
  | ok key =>
      have named := (key?_eq_ok keyed).1
      by_cases shrinks : bridge.kind = .counter ∧ Measure.isNegative amount = true
      · exact .inl ⟨.negative, bridge.opened key, if_pos shrinks,
          fun accepts => accepts.2.1 shrinks, sameStores_opened bridge key⟩
      · cases fits : Measure.kept? amount with
        | none =>
            have large : ¬bridge.Accepts labels amount := fun accepts => by
              obtain ⟨kept, same⟩ := accepts.2.2
              rw [fits] at same
              cases same
            refine .inl ⟨.tooLarge, bridge.opened key, ?_, large, sameStores_opened bridge key⟩
            exact if_neg shrinks
        | some kept =>
            have accepts : bridge.Accepts labels amount := ⟨named, shrinks, kept, fits⟩
            by_cases gauge : bridge.kind = .gauge
            · refine .inr ⟨kept, _, ?_, accepts, rfl, recorded_assign keyed gauge kept amount⟩
              exact (if_neg shrinks).trans (if_pos gauge)
            · refine .inr ⟨kept, _, ?_, accepts, rfl, recorded_accumulate keyed gauge kept amount⟩
              exact (if_neg shrinks).trans (if_neg gauge)

/-- What comes of what is handed over. -/
theorem take_cases (bridge : Bridge α) (handover : Handover α) :
    (∃ refusal after, bridge.take handover = (.error refusal, after) ∧
        (∀ amount, handover.verb.amount? handover.told = some amount →
          ¬bridge.Accepts handover.labels amount) ∧
        SameStores bridge after) ∨
      ∃ amount kept after, bridge.take handover = (.ok (), after) ∧
        handover.verb.amount? handover.told = some amount ∧
        bridge.Accepts handover.labels amount ∧ Measure.kept? amount = some kept ∧
        Recorded bridge handover.labels amount kept after := by
  rw [take]
  cases told : handover.verb.amount? handover.told with
  | none => exact .inl ⟨_, bridge, rfl, by simp, .refl bridge⟩
  | some amount =>
      rcases bridge.record_cases handover.labels amount with
        ⟨refusal, after, refused, denies, same⟩ | ⟨kept, after, recorded⟩
      · refine .inl ⟨refusal, after, refused, fun _ given => ?_, same⟩
        cases given
        exact denies
      · exact .inr ⟨amount, kept, after, recorded.1, rfl, recorded.2⟩

end Bridge
end Metric
end SignatureSearch
