import SignatureSearch.Catalog.Basic
import SignatureSearch.Proofs.Search.Looking

/-!
# Which canonical forms are worked out

Whatever looks at a slot works out its canonical form or leaves that alone, and what is known already
is never worked out anew.  Parsing a signature and writing a type leave canonical forms alone; so a
search for a text calls for none of them, while a search for a type calls for all.
-/

namespace SignatureSearch
namespace Catalog

namespace Slot

/-- Between two states of a slot nothing has been forgotten. -/
structure Keeps (before after : Slot) : Prop where
  /-- The slot keeps its entry. -/
  entry : after.entry = before.entry
  /-- A canonical form that is known stays as it is. -/
  kept : before.normalized ≠ none → after.normalized = before.normalized

/-- Between two states of a slot, the canonical form has been worked out if it was called for, and
nothing has been forgotten. -/
structure Settles (called : Prop) (before after : Slot) : Prop extends Keeps before after where
  /-- The form is known once it has been called for, and not before. -/
  known : after.isNormalized = true ↔ before.isNormalized = true ∨ called

section Settles

variable {before after last : Slot} {called more : Prop}

theorem Keeps.refl (slot : Slot) : Keeps slot slot :=
  ⟨rfl, fun _ => rfl⟩

theorem Keeps.trans (one : Keeps before after) (two : Keeps after last) : Keeps before last where
  entry := two.entry.trans one.entry
  kept known := (two.kept (one.kept known ▸ known)).trans (one.kept known)

namespace Settles

/-- The canonical form is left alone. -/
theorem of_same (entry : after.entry = before.entry)
    (normalized : after.normalized = before.normalized) : Settles False before after :=
  ⟨⟨entry, fun _ => normalized⟩, by rw [isNormalized, isNormalized, normalized, or_false]⟩

theorem refl (slot : Slot) : Settles False slot slot :=
  of_same rfl rfl

theorem trans (one : Settles called before after) (two : Settles more after last) :
    Settles (called ∨ more) before last where
  toKeeps := one.toKeeps.trans two.toKeeps
  known := by rw [two.known, one.known, or_assoc]

theorem congr (settles : Settles called before after) (same : called ↔ more) :
    Settles more before after :=
  propext same ▸ settles

end Settles

end Settles

variable (slot : Slot)

theorem normalized_readOutcome : slot.readOutcome.2.normalized = slot.normalized := by
  rw [readOutcome]
  split <;> rfl

theorem normalized_readTypeText : slot.readTypeText.2.normalized = slot.normalized := by
  rw [readTypeText]
  split
  · rfl
  · exact slot.normalized_readOutcome

theorem settles_readOutcome : Settles False slot slot.readOutcome.2 :=
  .of_same slot.entry_readOutcome slot.normalized_readOutcome

theorem settles_readTypeText : Settles False slot slot.readTypeText.2 :=
  .of_same slot.entry_readTypeText slot.normalized_readTypeText

theorem settles_readNormalized : Settles True slot slot.readNormalized.2 where
  entry := slot.entry_readNormalized
  kept known := by
    obtain ⟨type, kept⟩ := Option.ne_none_iff_exists'.mp known
    rw [readNormalized, kept]
    exact kept
  known := by
    refine iff_of_true ?_ (.inr trivial)
    rw [readNormalized]
    split
    · rename_i type kept
      rw [isNormalized, kept]
      rfl
    · rfl

theorem settles_view : Settles True slot slot.view.2 :=
  ((slot.settles_readOutcome.trans (settles_readTypeText _)).trans
    (settles_readNormalized _)).congr (iff_of_true (.inr trivial) trivial)

end Slot

/-! ## Lists of slots -/

/-- Between two states of slots, the canonical forms at some positions have been called for. -/
def Settled (called : Nat → Prop) (before after : List Slot) : Prop :=
  ∀ position, Option.Rel (Slot.Settles (called position)) before[position]? after[position]?

/-- The canonical form at a position is known. -/
def IsKnown (slots : List Slot) (position : Nat) : Prop :=
  (slots.map Slot.isNormalized)[position]? = some true

theorem isKnown_iff {slots : List Slot} {position : Nat} :
    IsKnown slots position ↔ ∃ slot, slots[position]? = some slot ∧ slot.isNormalized = true := by
  rw [IsKnown, List.getElem?_map, Option.map_eq_some_iff]

namespace Settled

variable {before after last : List Slot} {called more : Nat → Prop} {position : Nat}

theorem refl (slots : List Slot) : Settled (fun _ => False) slots slots := by
  intro position
  cases slots[position]? with
  | none => exact .none
  | some slot => exact .some (.refl slot)

theorem trans (one : Settled called before after) (two : Settled more after last) :
    Settled (fun position => called position ∨ more position) before last := by
  intro position
  have first := one position
  have second := two position
  generalize before[position]? = slot, after[position]? = middle, last[position]? = final
    at first second
  cases first with
  | none =>
      cases second
      exact .none
  | some settles =>
      cases second with
      | some settles' => exact .some (settles.trans settles')

theorem congr (settled : Settled called before after)
    (same : ∀ position, called position ↔ more position) : Settled more before after :=
  funext (fun position => propext (same position)) ▸ settled

/-- The slot at a position keeps its entry and what is known of it. -/
theorem kept (settled : Settled called before after) {slot : Slot}
    (listed : before[position]? = some slot) :
    ∃ later, after[position]? = some later ∧ Slot.Settles (called position) slot later := by
  have here := settled position
  rw [listed] at here
  generalize after[position]? = reached at here
  cases here with
  | some settles => exact ⟨_, rfl, settles⟩

theorem length (settled : Settled called before after) : after.length = before.length := by
  have ends (position : Nat) : after.length ≤ position ↔ before.length ≤ position := by
    rw [← List.getElem?_eq_none_iff, ← List.getElem?_eq_none_iff]
    have here := settled position
    generalize before[position]? = slot, after[position]? = later at here
    cases here <;> simp
  exact Nat.le_antisymm ((ends _).mpr (Nat.le_refl _)) ((ends _).mp (Nat.le_refl _))

theorem isKnown_iff (settled : Settled called before after) :
    IsKnown after position ↔
      IsKnown before position ∨ position < before.length ∧ called position := by
  have here := settled position
  have inside : position < before.length ↔ before[position]?.isSome = true := by
    rw [isSome_getElem?]
  rw [inside, IsKnown, IsKnown, List.getElem?_map, List.getElem?_map]
  generalize before[position]? = slot, after[position]? = later at here
  cases here with
  | none => simp
  | some settles => simpa using settles.known

end Settled

section Lists

variable {called : Prop} {f : Slot → Slot} (settles : ∀ slot, Slot.Settles called slot (f slot))

include settles

theorem settled_map (slots : List Slot) : Settled (fun _ => called) slots (slots.map f) := by
  intro position
  rw [List.getElem?_map]
  cases slots[position]? with
  | none => exact .none
  | some slot => exact .some (settles slot)

theorem settled_modify (slots : List Slot) (chosen : Nat) :
    Settled (fun position => chosen = position ∧ called) slots (slots.modify chosen f) := by
  intro position
  rw [List.getElem?_modify, Option.map_eq_map]
  cases slots[position]? with
  | none => exact .none
  | some slot =>
      rw [Option.map_some]
      by_cases here : chosen = position
      · rw [if_pos here]
        exact .some ((settles slot).congr (and_iff_right here).symm)
      · rw [if_neg here]
        exact .some ((Slot.Settles.refl slot).congr (iff_of_false id fun both => here both.1))

end Lists

/-! ## Slots that are added -/

theorem isKnown_append {slots more : List Slot} {position : Nat} :
    IsKnown (slots ++ more) position ↔
      IsKnown slots position ∨
        slots.length ≤ position ∧ IsKnown more (position - slots.length) := by
  rw [isKnown_iff, isKnown_iff, isKnown_iff]
  rcases Nat.lt_or_ge position slots.length with old | new
  · rw [List.getElem?_append_left old]
    exact (or_iff_left fun both => Nat.not_le_of_lt old both.1).symm
  · rw [List.getElem?_append_right new, List.getElem?_eq_none new, and_iff_right new]
    exact (or_iff_right fun ⟨_, listed, _⟩ => nomatch listed).symm

/-- The slots of a batch are settled at once or not at all. -/
theorem isKnown_slotsOf {eager : Bool} {batch : Batch} {position : Nat} :
    IsKnown (slotsOf eager batch) position ↔
      eager = true ∧ position < (slotsOf eager batch).length := by
  have settled : (slotsOf eager batch).map Slot.isNormalized = batch.entries.map fun _ => eager := by
    rw [slotsOf, List.map_map]
    refine List.map_congr_left fun entry _ => ?_
    cases eager with
    | true => exact (Slot.settles_readNormalized _).known.mpr (.inr trivial)
    | false => rfl
  rw [IsKnown, settled, slotsOf, List.length_map, List.getElem?_map, Option.map_eq_some_iff]
  constructor
  · rintro ⟨entry, listed, eager⟩
    exact ⟨eager, (List.getElem?_eq_some_iff.mp listed).1⟩
  · rintro ⟨eager, inside⟩
    exact ⟨_, List.getElem?_eq_getElem inside, eager⟩

end Catalog

namespace Search

open Catalog (Settled Slot)
open Signature (TypeExpr)

theorem settles_lookForText (includeTypes : Bool) (needle : List Char) (slot : Slot) :
    Slot.Settles False slot (lookForText includeTypes needle slot).2 := by
  rw [lookForText]
  split
  · exact .refl slot
  · split
    · exact slot.settles_readTypeText
    · exact .refl slot

theorem settled_lookThrough {called : Prop} {look : Look}
    (settles : ∀ slot, Slot.Settles called slot (look slot).2) (slots : List Slot) :
    Settled (fun _ => called) slots (lookThrough look slots).2 := by
  rw [lookThrough, List.map_map]
  exact Catalog.settled_map settles slots

theorem settled_lookupQuery {query : TypeExpr} {slots after : List Slot} {found : List Match}
    (looked : lookupQuery query slots = .ok (found, after)) :
    Settled (fun _ => True) slots after := by
  rw [lookupQuery] at looked
  cases canonical : query.normalize with
  | error error =>
      rw [canonical] at looked
      cases looked
  | ok type =>
      rw [canonical] at looked
      cases looked
      exact settled_lookThrough (fun slot => slot.settles_readNormalized) slots

/-- A search calls for every canonical form if it is for a type, and for none if it is for a
text. -/
theorem settled_lookup {includeTypes : Bool} {query : TypeExpr} {slots after : List Slot}
    {found : List Match} (looked : lookup includeTypes query slots = .ok (found, after)) :
    Settled (fun _ => classify query = .type) slots after := by
  cases query with
  | var name =>
      have idle : Settled (fun _ => False) slots after := by
        simp only [lookup, lookupText, Except.ok.injEq] at looked
        split at looked
        · cases looked
          exact .refl slots
        · cases looked
          exact settled_lookThrough (settles_lookForText includeTypes _) slots
      refine idle.congr fun _ => iff_of_false id ?_
      rintro ⟨⟩
  | _ => exact (settled_lookupQuery looked).congr fun _ => iff_of_true trivial rfl

end Search
end SignatureSearch
