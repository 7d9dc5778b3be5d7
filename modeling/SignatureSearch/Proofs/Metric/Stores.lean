import Mathlib.Algebra.BigOperators.Group.List.Basic
import SignatureSearch.Proofs.Metric.Steps
import SignatureSearch.Proofs.Number.Whole

/-!
# Two stores that agree

What is scraped of a metric is kept in the double format, and what is pushed is exact.  The two
agree on whole numbers as long as these, and what they add up to, are of a size at which the format
has every whole number.  The number of amounts in a histogram agrees whatever they are.
-/

namespace SignatureSearch
namespace Metric

namespace Amount

/-- The number that an amount stands for. -/
def value : Amount → ℚ
  | whole n => n
  | real x => x.value

/-- A whole number of a size at which the double format has every whole number. -/
def Safe (n : Int) : Prop :=
  n.natAbs < 2 ^ 53

/-- An amount that stands for a whole number, and is exact in sums with safe numbers. -/
def Stands : Amount → Int → Prop
  | whole n, m => n = m ∧ Safe m
  | real x, m => x.value = m ∧ m.natAbs ≤ 1

variable {amount other : Amount} {n m : Int}

theorem Stands.safe (stands : amount.Stands n) : Safe n := by
  cases amount with
  | whole n => exact stands.2
  | real x => exact lt_of_le_of_lt stands.2 (by norm_num)

theorem Stands.value (stands : amount.Stands n) : amount.value = n := by
  cases amount with
  | whole n => exact congrArg Int.cast stands.1
  | real x => exact stands.1

/-- An amount is zero when it stands for zero. -/
theorem isZero_iff (amount : Amount) : amount.isZero = true ↔ amount.value = 0 := by
  cases amount with
  | whole n => exact beq_iff_eq.trans Int.cast_eq_zero.symm
  | real x => exact beq_iff_eq.trans x.value_eq_zero_iff.symm

/-- A safe number is exact in the double format. -/
theorem Stands.binary? (stands : amount.Stands n) : ∃ x, amount.binary? = some x ∧ x.value = n := by
  cases amount with
  | whole m =>
      obtain ⟨rfl, safe⟩ := stands
      exact Binary.value_ofInt? safe.le
  | real x => exact ⟨x, rfl, stands.1⟩

theorem Stands.kept? (stands : amount.Stands n) :
    ∃ x, Measure.kept? amount = some (real x) ∧ x.value = n := by
  obtain ⟨x, fits, value⟩ := stands.binary?
  exact ⟨x, congrArg (Option.map real) fits, value⟩

theorem Stands.negated (stands : amount.Stands n) : amount.negated.Stands (-n) := by
  cases amount with
  | whole m => exact ⟨congrArg Neg.neg stands.1, (Int.natAbs_neg n).trans_lt stands.2⟩
  | real x =>
      have negated : x.negated.value = (-n : Int) := by
        rw [x.value_negated, stands.1, Int.cast_neg]
      exact ⟨negated, (Int.natAbs_neg n).trans_le stands.2⟩

/-- A sum of two amounts is exact, since one of them is small when the other is rounded. -/
theorem Stands.value_add (stands : amount.Stands n) (standsOther : other.Stands m) :
    (amount.add other).value = (n + m : Int) := by
  -- Two safe numbers can add up to an odd one that is no double; one and a safe number cannot.
  have fits := stands.binary?
  have fitsOther := standsOther.binary?
  have rounded {x y : Binary} (first : x.value = n) (second : y.value = m)
      (small : n.natAbs ≤ 1 ∨ m.natAbs ≤ 1) : (x.add y).value = (n + m : Int) := by
    have safe := stands.safe
    have safeOther := standsOther.safe
    rw [Safe] at safe safeOther
    exact Binary.value_add (by omega) (by rw [first, second, Int.cast_add])
  cases amount with
  | whole k =>
      cases other with
      | whole l =>
          rw [add, Amount.value, stands.1, standsOther.1]
      | real y =>
          obtain ⟨x, fits, value⟩ := fits
          rw [add]
          · rw [fits, Amount.binary?]
            exact rounded value standsOther.1 (.inr standsOther.2)
          · simp
  | real x =>
      obtain ⟨y, fits, value⟩ := fitsOther
      rw [add]
      · rw [fits, Amount.binary?]
        exact rounded stands.1 value (.inl stands.2)
      · simp

/-- A difference of two amounts is exact. -/
theorem Stands.value_sub (stands : amount.Stands n) (standsOther : other.Stands m) :
    (Measure.sub amount other).value = (n - m : Int) :=
  stands.value_add standsOther.negated

end Amount

open Amount (Safe)

/-- A whole number handed over, as an amount. -/
def Handover.written (handover : Handover Int) : Handover Amount :=
  { handover with told := handover.told.map Amount.whole }

/-- What is handed over stands for a whole number, if what is told is safe. -/
theorem Handover.stands {handover : Handover Int} {amount : Amount}
    (safe : ∀ n, handover.told = some n → Safe n)
    (given : handover.written.verb.amount? handover.written.told = some amount) :
    ∃ n, amount.Stands n := by
  rw [written] at given
  cases told : handover.told with
  | some n =>
      rw [told] at given
      have same : Amount.whole n = amount := by
        cases verb : handover.verb <;> rw [verb] at given <;> exact Option.some.inj given
      exact ⟨n, same ▸ ⟨rfl, safe n told⟩⟩
  | none =>
      rw [told] at given
      cases verb : handover.verb <;> rw [verb] at given
      · refine ⟨1, Option.some.inj given ▸ ⟨?_, le_rfl⟩⟩
        norm_num [Binary.value]
      · cases given
      · cases given

namespace Bridge

/-! ## As many amounts in both stores -/

section Counts

variable {α : Type} [Measure α] {bridge : Bridge α}

theorem shown_blank (kind : Kind) (names : List String) (labels : LabelSet) :
    (blank kind names : Bridge α).shown labels = nothing := by
  rw [shown]
  split <;> rfl

theorem takeAll_concat (bridge : Bridge α) (handovers : List (Handover α))
    (handover : Handover α) :
    bridge.takeAll (handovers ++ [handover]) = ((bridge.takeAll handovers).take handover).2 := by
  rw [takeAll, takeAll, List.foldl_append]
  rfl

theorem kind_take (bridge : Bridge α) (handover : Handover α) :
    (bridge.take handover).2.kind = bridge.kind := by
  rcases bridge.take_cases handover with
    ⟨_, after, taken, -, same⟩ | ⟨_, _, after, taken, -, -, -, recorded⟩
  · rw [taken]
    exact same.kind
  · rw [taken]
    exact recorded.kind

theorem kind_takeAll (bridge : Bridge α) (handovers : List (Handover α)) :
    (bridge.takeAll handovers).kind = bridge.kind := by
  induction handovers using List.reverseRecOn with
  | nil => rfl
  | append_singleton handovers handover ih => rw [takeAll_concat, kind_take, ih]

theorem count_take (kind : bridge.kind ≠ .gauge)
    (even : ∀ labels, (bridge.pushed labels).length = (bridge.shown labels).count)
    (handover : Handover α) (labels : LabelSet) :
    ((bridge.take handover).2.pushed labels).length =
      ((bridge.take handover).2.shown labels).count := by
  rcases bridge.take_cases handover with
    ⟨_, after, taken, -, same⟩ | ⟨_, _, after, taken, -, -, -, recorded⟩
  · rw [taken, pushed_congr same.calls, same.shown, even]
  · rw [taken, recorded.pushed, recorded.shown, List.length_append, even]
    by_cases told : handover.labels.Same labels
    · rw [if_pos told, if_pos told, if_neg kind]
      rfl
    · rw [if_neg told, if_neg told]
      rfl

/-- A series other than a gauge's has as many amounts in it as have been pushed. -/
theorem count_takeAll {kind : Kind} (other : kind ≠ .gauge) (names : List String)
    (handovers : List (Handover α)) (labels : LabelSet) :
    (((blank kind names).takeAll handovers).pushed labels).length =
      (((blank kind names).takeAll handovers).shown labels).count := by
  induction handovers using List.reverseRecOn generalizing labels with
  | nil =>
      change 0 = ((blank kind names).shown labels).count
      rw [shown_blank]
      rfl
  | append_singleton handovers handover ih =>
      rw [takeAll_concat]
      exact count_take ((kind_takeAll _ handovers).trans_ne other) ih handover labels

end Counts

/-! ## The same sum in both stores -/

variable {bridge : Bridge Amount}

/-- What the amounts pushed for labels add up to. -/
def total (bridge : Bridge Amount) (labels : LabelSet) : ℚ :=
  ((bridge.pushed labels).map Amount.value).sum

/-- The stores agree on a whole number for labels, and a gauge remembers it. -/
structure AgreeOn (bridge : Bridge Amount) (labels : LabelSet) (n : Int) : Prop where
  shown : ∃ x, (bridge.shown labels).value = .real x ∧ x.value = n
  total : bridge.total labels = n
  previous : bridge.kind = .gauge → (bridge.previous labels.sorted).Stands n

theorem agreeOn_blank (kind : Kind) (names : List String) (labels : LabelSet) :
    (blank kind names).AgreeOn labels 0 where
  shown := by
    rw [shown_blank]
    exact ⟨_, rfl, by norm_num [Binary.value]⟩
  total := Int.cast_zero.symm
  previous _ := ⟨by norm_num [Binary.value], by norm_num⟩

theorem AgreeOn.of_sameStores {labels : LabelSet} {n : Int} {after : Bridge Amount}
    (agree : bridge.AgreeOn labels n) (same : SameStores bridge after) :
    after.AgreeOn labels n where
  shown := same.shown labels ▸ agree.shown
  total := by
    rw [Bridge.total, pushed_congr same.calls]
    exact agree.total
  previous gauge := by
    rw [Bridge.previous, same.remembered]
    exact agree.previous (same.kind ▸ gauge)

section Recorded

variable {labels other : LabelSet} {amount kept : Amount} {after : Bridge Amount} {n m : Int}

theorem total_of_pushed {more : List Amount}
    (pushed : after.pushed labels = bridge.pushed labels ++ more) :
    after.total labels = bridge.total labels + (more.map Amount.value).sum := by
  rw [total, pushed, List.map_append, List.sum_append]
  rfl

/-- Labels that are not told of keep what both stores have for them. -/
theorem AgreeOn.of_differ (agree : bridge.AgreeOn other n)
    (recorded : Recorded bridge labels amount kept after) (differ : ¬labels.Same other) :
    after.AgreeOn other n where
  shown := by
    rw [recorded.shown, if_neg differ]
    exact agree.shown
  total := by
    rw [total_of_pushed (recorded.pushed other), if_neg differ, agree.total]
    exact add_zero _
  previous gauge := by
    rw [recorded.previous, if_neg fun both => differ both.2]
    exact agree.previous (recorded.kind ▸ gauge)

/-- A gauge goes from what it was to what it is set to by the change that is pushed. -/
theorem AgreeOn.of_assigned (agree : bridge.AgreeOn other n) (kind : bridge.kind = .gauge)
    (stands : amount.Stands m) (fits : Measure.kept? amount = some kept)
    (recorded : Recorded bridge labels amount kept after) (same : labels.Same other) :
    after.AgreeOn other m where
  shown := by
    obtain ⟨x, keeps, value⟩ := stands.kept?
    rw [recorded.shown, if_pos same, if_pos kind]
    exact ⟨x, Option.some.inj (fits.symm.trans keeps), value⟩
  total := by
    have change := stands.value_sub (agree.previous kind)
    rw [total_of_pushed (recorded.pushed other), if_pos same, if_pos kind, agree.total,
      LabelSet.sorted_eq_iff.mpr same]
    by_cases zero : Measure.isZero (Measure.sub amount (bridge.previous other.sorted)) = true
    · have unchanged : (m - n : Int) = 0 :=
        Int.cast_eq_zero.mp (change.symm.trans ((Amount.isZero_iff _).mp zero))
      rw [if_pos zero, sub_eq_zero.mp unchanged]
      exact add_zero _
    · rw [if_neg zero, List.map_singleton, List.sum_singleton, change, Int.cast_sub]
      exact add_sub_cancel _ _
  previous _ := by
    rw [recorded.previous, if_pos ⟨kind, same⟩]
    exact stands

/-- Anything but a gauge goes up by the amount that is pushed, as long as the sum is safe. -/
theorem AgreeOn.of_accumulated (agree : bridge.AgreeOn other n) (kind : bridge.kind ≠ .gauge)
    (stands : amount.Stands m) (fits : Measure.kept? amount = some kept)
    (recorded : Recorded bridge labels amount kept after) (same : labels.Same other)
    (bounded : |after.total other| < 2 ^ 53) : after.AgreeOn other (n + m) := by
  have total : after.total other = (n + m : Int) := by
    rw [total_of_pushed (recorded.pushed other), if_pos same, if_neg kind, agree.total,
      List.map_singleton, List.sum_singleton, stands.value, Int.cast_add]
  have small : (n + m).natAbs ≤ 2 ^ 53 := by
    rw [total, ← Int.cast_abs, Int.abs_eq_natAbs] at bounded
    exact_mod_cast bounded.le
  refine ⟨?_, total, fun gauge => absurd (recorded.kind ▸ gauge) kind⟩
  obtain ⟨x, before, value⟩ := agree.shown
  obtain ⟨y, keeps, added⟩ := stands.kept?
  rw [recorded.shown, if_pos same, if_neg kind, before, Option.some.inj (fits.symm.trans keeps)]
  exact ⟨x.add y, rfl, Binary.value_add small (by rw [value, added, Int.cast_add])⟩

end Recorded

/-- A step after which the stores agree, if they did before. -/
theorem agreeOn_take {handover : Handover Int} (agree : ∀ labels, ∃ n, bridge.AgreeOn labels n)
    (safe : ∀ n, handover.told = some n → Safe n)
    (bounded : bridge.kind ≠ .gauge →
      ∀ labels, |(bridge.take handover.written).2.total labels| < 2 ^ 53)
    (labels : LabelSet) : ∃ n, (bridge.take handover.written).2.AgreeOn labels n := by
  obtain ⟨before, agree⟩ := agree labels
  rcases bridge.take_cases handover.written with
    ⟨_, after, taken, -, same⟩ | ⟨amount, kept, after, taken, given, -, fits, recorded⟩
  · exact ⟨before, taken ▸ agree.of_sameStores same⟩
  · rw [taken] at bounded ⊢
    obtain ⟨n, stands⟩ := Handover.stands safe given
    by_cases told : handover.labels.Same labels
    · by_cases kind : bridge.kind = .gauge
      · exact ⟨n, agree.of_assigned kind stands fits recorded told⟩
      · exact ⟨before + n,
          agree.of_accumulated kind stands fits recorded told (bounded kind labels)⟩
    · exact ⟨before, agree.of_differ recorded told⟩

/-- What is handed over to a metric is safe: what is told is, and so is what it adds up to for any
labels at any time.  A gauge does not add up. -/
structure StaysSafe (kind : Kind) (names : List String) (handovers : List (Handover Int)) :
    Prop where
  told : ∀ handover ∈ handovers, ∀ n, handover.told = some n → Safe n
  total : kind ≠ .gauge → ∀ earlier, earlier <+: handovers → ∀ labels,
    |((blank kind names).takeAll (earlier.map Handover.written)).total labels| < 2 ^ 53

theorem StaysSafe.earlier {kind : Kind} {names : List String} {handovers : List (Handover Int)}
    {handover : Handover Int} (safe : StaysSafe kind names (handovers ++ [handover])) :
    StaysSafe kind names handovers where
  told handover inside := safe.told handover (List.mem_append_left _ inside)
  total gauge earlier first := safe.total gauge earlier (first.trans (List.prefix_append ..))

/-- The stores agree at all times on what is safe. -/
theorem agreeOn_takeAll {kind : Kind} {names : List String} {handovers : List (Handover Int)}
    (safe : StaysSafe kind names handovers) (labels : LabelSet) :
    ∃ n, ((blank kind names).takeAll (handovers.map Handover.written)).AgreeOn labels n := by
  induction handovers using List.reverseRecOn generalizing labels with
  | nil => exact ⟨0, agreeOn_blank kind names labels⟩
  | append_singleton handovers handover ih =>
      rw [List.map_append, List.map_singleton, takeAll_concat]
      refine agreeOn_take (ih safe.earlier) (safe.told handover (by simp)) (fun gauge labels => ?_)
        labels
      rw [kind_takeAll] at gauge
      have last := safe.total gauge _ List.prefix_rfl labels
      rwa [List.map_append, List.map_singleton, takeAll_concat] at last

/-- **The two stores of a metric agree.**  What is scraped for labels is what has been pushed for
them, as long as the whole numbers that are handed over, and their sums, are of a size at which the
double format has every whole number.  A histogram has as many amounts in one store as in the other,
whatever they are.  What can be recorded is recorded in both; anything else is refused, and leaves
both stores, and what a gauge remembers, as they were. -/
theorem stores_agree (kind : Kind) (names : List String) (handovers : List (Handover Int)) :
    let metric := (blank kind names).takeAll (handovers.map Handover.written)
    (StaysSafe kind names handovers →
      ∀ labels, metric.total labels = (metric.shown labels).value.value) ∧
    (kind = .histogram →
      ∀ labels, (metric.pushed labels).length = (metric.shown labels).count) ∧
    (∀ handover amount, handover.verb.amount? handover.told = some amount →
      metric.Accepts handover.labels amount →
      ∃ kept after, metric.take handover = (.ok (), after) ∧
        Measure.kept? amount = some kept ∧ Recorded metric handover.labels amount kept after) ∧
    ∀ handover refusal, (metric.take handover).1 = .error refusal →
      let after := (metric.take handover).2
      (∀ labels, after.shown labels = metric.shown labels) ∧ after.calls = metric.calls ∧
        after.remembered = metric.remembered := by
  intro metric
  refine ⟨fun safe labels => ?_, fun histogram labels => ?_,
    fun handover amount told accepts => ?_, fun handover refusal refused => ?_⟩
  · obtain ⟨n, agree⟩ := agreeOn_takeAll safe labels
    obtain ⟨x, shown, value⟩ := agree.shown
    rw [agree.total, shown]
    exact value.symm
  · exact count_takeAll (by rw [histogram]; decide) names _ labels
  · rcases metric.take_cases handover with
      ⟨_, _, _, denies, -⟩ | ⟨given, kept, after, taken, same, -, fits, recorded⟩
    · exact absurd accepts (denies amount told)
    · cases told.symm.trans same
      exact ⟨kept, after, taken, fits, recorded⟩
  · rcases metric.take_cases handover with ⟨_, after, taken, -, same⟩ | ⟨_, _, after, taken, -⟩
    · rw [taken]
      exact ⟨same.shown, same.calls, same.remembered⟩
    · rw [taken] at refused
      cases refused

/-- A gauge is set to five and then to two in one region, and without a region in between, which is
refused. -/
theorem stores_agree_on_region :
    let north : LabelSet := Table.empty.put "region" "north"
    let handovers : List (Handover Int) :=
      [⟨.set, north, some 5⟩, ⟨.set, Table.empty, some 7⟩, ⟨.set, north, some 2⟩]
    let metric := (blank .gauge ["region"]).takeAll (handovers.map Handover.written)
    StaysSafe .gauge ["region"] handovers ∧
    (∀ labels, metric.total labels = (metric.shown labels).value.value) ∧
    (metric.pushed north).length = 2 ∧ (metric.shown north).value.binary? = Binary.ofInt? 2 := by
  intro north handovers metric
  have safe : StaysSafe .gauge ["region"] handovers := by
    refine ⟨fun handover inside n told => ?_, fun other => absurd rfl other⟩
    simp only [handovers, List.mem_cons, List.not_mem_nil, or_false] at inside
    rcases inside with rfl | rfl | rfl <;> cases told <;> norm_num [Safe]
  refine ⟨safe, (stores_agree .gauge ["region"] handovers).1 safe, ?_⟩
  decide +kernel

/-- One more than two to the fifty-third is pushed as it is, and scraped as that power of two. -/
theorem stores_disagree_on_large :
    ¬∀ (kind : Kind) (names : List String) (handovers : List (Handover Int)) (labels : LabelSet),
      let metric := (blank kind names).takeAll (handovers.map Handover.written)
      metric.total labels = (metric.shown labels).value.value := by
  intro agree
  have same := agree .counter [] [⟨.inc, Table.empty, some 9007199254740993⟩] Table.empty
  have pushed : ((blank .counter []).takeAll ([⟨.inc, Table.empty, some 9007199254740993⟩].map
      Handover.written)).pushed Table.empty = [.whole 9007199254740993] := by
    decide +kernel
  have shown : (((blank .counter []).takeAll ([⟨.inc, Table.empty, some 9007199254740993⟩].map
      Handover.written)).shown Table.empty).value =
        .real { negative := false, mantissa := 2 ^ 52, exponent := 1 } := by
    decide +kernel
  have sum := congrArg (fun amounts => (amounts.map Amount.value).sum) pushed
  have parted := (sum.symm.trans same).trans (congrArg Amount.value shown)
  norm_num [Amount.value, Binary.value] at parted

end Bridge
end Metric
end SignatureSearch
