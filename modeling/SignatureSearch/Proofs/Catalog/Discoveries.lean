import Mathlib.Data.List.Forall2
import SignatureSearch.Catalog.Basic
import SignatureSearch.Proofs.Search.Looking

/-!
# What is found out about signatures

Slots only ever gain.  Whatever looks at a slot keeps its entry and what came of parsing its
signature, so a signature that cannot be parsed is found out about once: the discoveries between two
states of the slots are exactly the refused signatures parsed in between.
-/

namespace SignatureSearch

namespace Signature

/-- A text is no signature. -/
def isRefused (text : String) : Bool :=
  match parse? text with
  | .ok _ => false
  | .error _ => true

theorem length_error?_outcome (text : String) :
    (outcome text).error?.toList.length = [text].countP isRefused := by
  rw [List.countP_singleton, outcome, isRefused]
  cases parse? text <;> rfl

end Signature

namespace Catalog

open Signature (isRefused)

namespace Slot

/-- What a slot keeps is right, and nothing is kept of a signature that has not been parsed. -/
structure Sound (slot : Slot) : Prop where
  /-- What the slot keeps is what its entry amounts to. -/
  faithful : slot.Faithful
  /-- Parsing comes first. -/
  parsed : slot.outcome = none → slot.normalized = none ∧ slot.typeText = none

/-- More may have been worked out in a slot, and nothing has been forgotten. -/
structure Grows (before after : Slot) : Prop where
  /-- The slot keeps its entry. -/
  entry : after.entry = before.entry
  /-- A signature that has been parsed is not parsed again. -/
  outcome : before.outcome ≠ none → after.outcome = before.outcome
  /-- What is worked out is right. -/
  sound : before.Sound → after.Sound

/-- The signature has been parsed and refused. -/
def isCounted (slot : Slot) : Bool :=
  slot.outcome.isSome && isRefused slot.entry.signature

theorem Grows.refl (slot : Slot) : Grows slot slot :=
  ⟨rfl, fun _ => rfl, id⟩

theorem Grows.trans {first second third : Slot} (one : Grows first second)
    (two : Grows second third) : Grows first third where
  entry := two.entry.trans one.entry
  outcome parsed := (two.outcome (one.outcome parsed ▸ parsed)).trans (one.outcome parsed)
  sound := two.sound ∘ one.sound

variable (slot : Slot)

theorem sound_untouched (entry : Entry) : (untouched entry).Sound :=
  ⟨faithful_untouched entry, fun _ => ⟨rfl, rfl⟩⟩

theorem outcome_readOutcome_ne_none : slot.readOutcome.2.outcome ≠ none := by
  rw [readOutcome]
  split
  · rename_i outcome parsed
    rw [parsed]
    exact Option.some_ne_none outcome
  · exact Option.some_ne_none _

theorem grows_readOutcome : Grows slot slot.readOutcome.2 where
  entry := slot.entry_readOutcome
  outcome parsed := by
    rw [readOutcome]
    split
    · rfl
    · rename_i unparsed
      exact absurd unparsed parsed
  sound sound :=
    ⟨sound.faithful.readOutcome, fun unparsed =>
      absurd unparsed slot.outcome_readOutcome_ne_none⟩

theorem grows_readNormalized : Grows slot slot.readNormalized.2 where
  entry := slot.entry_readNormalized
  outcome parsed := by
    rw [readNormalized]
    split
    · rfl
    · exact slot.grows_readOutcome.outcome parsed
  sound sound := by
    refine ⟨sound.faithful.readNormalized, ?_⟩
    rw [readNormalized]
    split
    · exact sound.parsed
    · exact fun unparsed => absurd unparsed slot.outcome_readOutcome_ne_none

theorem grows_readTypeText : Grows slot slot.readTypeText.2 where
  entry := slot.entry_readTypeText
  outcome parsed := by
    rw [readTypeText]
    split
    · rfl
    · exact slot.grows_readOutcome.outcome parsed
  sound sound := by
    refine ⟨sound.faithful.readTypeText, ?_⟩
    rw [readTypeText]
    split
    · exact sound.parsed
    · exact fun unparsed => absurd unparsed slot.outcome_readOutcome_ne_none

theorem grows_view : Grows slot slot.view.2 :=
  (slot.grows_readOutcome.trans (grows_readTypeText _)).trans (grows_readNormalized _)

/-- Working out the canonical form of an entry takes parsing its signature. -/
theorem outcome_settle_ne_none {slot : Slot} (sound : slot.Sound) :
    slot.settle.outcome ≠ none := by
  rw [settle, readNormalized]
  split
  · rename_i type known
    intro unparsed
    rw [(sound.parsed unparsed).1] at known
    cases known
  · exact slot.outcome_readOutcome_ne_none

theorem isCounted_settle {slot : Slot} (sound : slot.Sound) :
    slot.settle.isCounted = isRefused slot.entry.signature := by
  rw [isCounted, Option.isSome_iff_ne_none.mpr (outcome_settle_ne_none sound), entry_settle,
    Bool.true_and]

/-- What is found out about a slot is whether its signature is refused, when it is parsed. -/
theorem length_discovery? {before after : Slot} (grows : Grows before after)
    (sound : before.Sound) :
    (before.discovery? after).toList.length + [before].countP isCounted =
      [after].countP isCounted := by
  have kept := (grows.sound sound).faithful.outcome
  simp only [List.countP_singleton, discovery?, isCounted, grows.entry]
  rcases Option.eq_none_or_eq_some before.outcome with unparsed | ⟨outcome, parsed⟩
  · rcases Option.eq_none_or_eq_some after.outcome with still | ⟨outcome, parsed⟩
    · simp [unparsed, still]
    · have told := Signature.length_error?_outcome after.entry.signature
      rw [← kept outcome parsed, grows.entry, List.countP_singleton] at told
      simpa [unparsed, parsed] using told
  · have still := grows.outcome (by simp [parsed])
    simp [still, parsed]

end Slot

/-! ## Lists of slots -/

/-- More may have been worked out in slots, and nothing has been forgotten. -/
abbrev Grown : List Slot → List Slot → Prop :=
  List.Forall₂ Slot.Grows

/-- Every slot of a list is sound. -/
def AllSound (slots : List Slot) : Prop :=
  ∀ slot ∈ slots, slot.Sound

variable {before after : List Slot}

theorem Grown.refl (slots : List Slot) : Grown slots slots :=
  List.forall₂_same.mpr fun slot _ => .refl slot

theorem Grown.allSound (grown : Grown before after) (sound : AllSound before) :
    AllSound after := by
  induction grown with
  | nil => exact sound
  | cons grows _ ih =>
      rw [AllSound, List.forall_mem_cons] at sound ⊢
      exact ⟨grows.sound sound.1, ih sound.2⟩

theorem Grown.trans {last : List Slot} (one : Grown before after) (two : Grown after last) :
    Grown before last := by
  induction one generalizing last with
  | nil => exact two
  | cons grows _ ih =>
      cases two with
      | cons grows' rest => exact .cons (grows.trans grows') (ih rest)

theorem grown_map {f : Slot → Slot} (grows : ∀ slot, Slot.Grows slot (f slot))
    (slots : List Slot) : Grown slots (slots.map f) :=
  List.forall₂_map_right_iff.mpr (List.forall₂_same.mpr fun slot _ => grows slot)

theorem grown_modify {f : Slot → Slot} (grows : ∀ slot, Slot.Grows slot (f slot))
    (slots : List Slot) (position : Nat) : Grown slots (slots.modify position f) := by
  induction slots generalizing position with
  | nil => cases position <;> exact .nil
  | cons slot slots ih =>
      cases position with
      | zero => exact .cons (grows slot) (Grown.refl slots)
      | succ position => exact .cons (.refl slot) (ih position)

/-- What is found out between two states of slots are the refused signatures that have been parsed
in between. -/
theorem length_discoveries (grown : Grown before after) (sound : AllSound before) :
    (discoveries before after).length + before.countP Slot.isCounted =
      after.countP Slot.isCounted := by
  induction grown with
  | nil => rfl
  | @cons slot slot' slots slots' grows _ ih =>
      rw [AllSound, List.forall_mem_cons] at sound
      have first := Slot.length_discovery? grows sound.1
      have others := ih sound.2
      have split : (discoveries (slot :: slots) (slot' :: slots')).length =
          (slot.discovery? slot').toList.length + (discoveries slots slots').length := by
        rw [discoveries, List.zip_cons_cons, List.filterMap_cons]
        cases found : slot.discovery? slot' <;> simp [discoveries, found, Nat.add_comm]
      have counted : ∀ (slot : Slot) (slots : List Slot), (slot :: slots).countP Slot.isCounted =
          [slot].countP Slot.isCounted + slots.countP Slot.isCounted := by
        intro slot slots
        rw [← List.countP_append, List.singleton_append]
      rw [split, counted slot, counted slot']
      omega

/-! ## The slots of a batch -/

/-- How many signatures of a batch are refused. -/
def Batch.refusedCount (batch : Batch) : Nat :=
  batch.entries.countP fun entry => isRefused entry.signature

theorem allSound_slotsOf (eager : Bool) (batch : Batch) : AllSound (slotsOf eager batch) := by
  intro slot listed
  obtain ⟨entry, -, rfl⟩ := List.mem_map.mp listed
  have untouched := Slot.sound_untouched entry
  cases eager with
  | true => exact (Slot.grows_readNormalized _).sound untouched
  | false => exact untouched

/-- The refused signatures of a batch are found out about at once or not yet. -/
theorem countP_slotsOf (eager : Bool) (batch : Batch) :
    (slotsOf eager batch).countP Slot.isCounted = if eager then batch.refusedCount else 0 := by
  rw [slotsOf, List.countP_map]
  cases eager with
  | true =>
      refine List.countP_congr fun entry _ => ?_
      have counted := Slot.isCounted_settle (Slot.sound_untouched entry)
      rw [Function.comp_apply, if_pos rfl, counted, Slot.untouched]
  | false => simp [Function.comp_def, Slot.isCounted, Slot.untouched]

theorem length_discoveries_slotsOf (eager : Bool) (batch : Batch) :
    (discoveries (slotsOf false batch) (slotsOf eager batch)).length =
      if eager then batch.refusedCount else 0 := by
  have grown : Grown (slotsOf false batch) (slotsOf eager batch) := by
    cases eager with
    | true =>
        have settled : slotsOf true batch = (slotsOf false batch).map Slot.settle := by
          simp [slotsOf]
        exact settled ▸ grown_map Slot.grows_readNormalized _
    | false => exact .refl _
  have found := length_discoveries grown (allSound_slotsOf false batch)
  rw [countP_slotsOf, countP_slotsOf] at found
  simpa using found

end Catalog

namespace Search

open Catalog (Grown Slot)
open Signature (TypeExpr)

theorem grown_lookThrough {look : Look} (grows : ∀ slot, Slot.Grows slot (look slot).2)
    (slots : List Slot) : Grown slots (lookThrough look slots).2 := by
  rw [lookThrough, List.map_map]
  exact Catalog.grown_map grows slots

theorem grows_lookForText (includeTypes : Bool) (needle : List Char) (slot : Slot) :
    Slot.Grows slot (lookForText includeTypes needle slot).2 := by
  rw [lookForText]
  split
  · exact .refl slot
  · split
    · exact slot.grows_readTypeText
    · exact .refl slot

theorem grown_lookupQuery {query : TypeExpr} {slots after : List Slot} {found : List Match}
    (looked : lookupQuery query slots = .ok (found, after)) : Grown slots after := by
  rw [lookupQuery] at looked
  cases canonical : query.normalize with
  | error error =>
      rw [canonical] at looked
      cases looked
  | ok type =>
      rw [canonical] at looked
      cases looked
      exact grown_lookThrough (fun slot => slot.grows_readNormalized) slots

/-- A search forgets nothing. -/
theorem grown_lookup {includeTypes : Bool} {query : TypeExpr} {slots after : List Slot}
    {found : List Match} (looked : lookup includeTypes query slots = .ok (found, after)) :
    Grown slots after := by
  cases query with
  | var name =>
      simp only [lookup, lookupText, Except.ok.injEq] at looked
      split at looked
      · cases looked
        exact .refl slots
      · cases looked
        exact grown_lookThrough (grows_lookForText includeTypes _) slots
  | _ => exact grown_lookupQuery looked

end Search
end SignatureSearch
