import Mathlib.Data.List.Basic
import SignatureSearch.Proofs.Catalog.Slots
import SignatureSearch.Search.Lookup

/-!
# Searches in slots and searches among entries

A search in slots keeps what it looked at and changes no entry.  In faithful slots it finds what the
search among their entries finds, and leaves them faithful.
-/

namespace SignatureSearch
namespace Search

open Catalog (Entry Slot)
open Signature (TypeExpr)

/-- Every slot of a list is faithful. -/
def AllFaithful (slots : List Slot) : Prop :=
  ∀ slot ∈ slots, slot.Faithful

theorem allFaithful_map {f : Slot → Slot} {slots : List Slot} (faithful : AllFaithful slots)
    (keeps : ∀ slot : Slot, slot.Faithful → (f slot).Faithful) : AllFaithful (slots.map f) := by
  intro after member
  obtain ⟨slot, inside, rfl⟩ := List.mem_map.mp member
  exact keeps slot (faithful slot inside)

theorem entries_map {f : Slot → Slot} (keeps : ∀ slot, (f slot).entry = slot.entry)
    (slots : List Slot) : (slots.map f).map Slot.entry = slots.map Slot.entry := by
  rw [List.map_map]
  exact List.map_congr_left fun slot _ => keeps slot

/-! ## Looking at one slot -/

/-- What an entry answers to the search for a folded text. -/
def textVerdict (includeTypes : Bool) (needle : List Char) (entry : Entry) :
    Option (Option Nat) :=
  if nameMatches includeTypes needle entry then some none else none

/-- What an entry answers to a canonical query. -/
def typeVerdict (query : TypeExpr) (entry : Entry) : Option (Option Nat) :=
  let score := query.similarity entry.normalized
  if 0 < score then some (some score) else none

theorem entry_lookForText (includeTypes : Bool) (needle : List Char) (slot : Slot) :
    (lookForText includeTypes needle slot).2.entry = slot.entry := by
  rw [lookForText]
  split
  · rfl
  · split
    · exact slot.entry_readTypeText
    · rfl

theorem entry_lookForType (query : TypeExpr) (slot : Slot) :
    (lookForType query slot).2.entry = slot.entry :=
  slot.entry_readNormalized

section Faithful

variable {slot : Slot} (faithful : slot.Faithful)

include faithful

theorem faithful_lookForText (includeTypes : Bool) (needle : List Char) :
    (lookForText includeTypes needle slot).2.Faithful := by
  rw [lookForText]
  split
  · exact faithful
  · split
    · exact faithful.readTypeText
    · exact faithful

theorem faithful_lookForType (query : TypeExpr) : (lookForType query slot).2.Faithful :=
  faithful.readNormalized

/-- A slot tells what its entry answers to the search for a text. -/
theorem fst_lookForText (includeTypes : Bool) (needle : List Char) :
    (lookForText includeTypes needle slot).1 = textVerdict includeTypes needle slot.entry := by
  rw [lookForText, textVerdict, nameMatches]
  by_cases named : nameHas needle slot.entry = true
  · simp [named]
  · cases includeTypes with
    | false => simp [named]
    | true =>
        simp only [named, Bool.false_eq_true, if_false, if_true, Bool.true_and, Bool.false_or,
          typeHas, Slot.fst_readTypeText faithful]

/-- A slot tells how similar the type of its entry is. -/
theorem fst_lookForType (query : TypeExpr) :
    (lookForType query slot).1 = typeVerdict query slot.entry := by
  rw [typeVerdict, ← Slot.fst_readNormalized faithful]
  rfl

end Faithful

/-! ## Looking through slots -/

theorem entries_lookThrough {look : Look} (keeps : ∀ slot, (look slot).2.entry = slot.entry)
    (slots : List Slot) : (lookThrough look slots).2.map Slot.entry = slots.map Slot.entry := by
  rw [lookThrough, List.map_map, List.map_map]
  exact List.map_congr_left fun slot _ => keeps slot

theorem faithful_lookThrough {look : Look}
    (keeps : ∀ slot : Slot, slot.Faithful → (look slot).2.Faithful) {slots : List Slot}
    (faithful : AllFaithful slots) : AllFaithful (lookThrough look slots).2 := by
  rw [lookThrough, List.map_map]
  exact allFaithful_map faithful keeps

/-- What is found in slots depends on what they tell of their entries. -/
theorem found_lookThrough {look : Look} {slots : List Slot} (told : Entry → Option (Option Nat))
    (keeps : ∀ slot, (look slot).2.entry = slot.entry)
    (tells : ∀ slot ∈ slots, (look slot).1 = told slot.entry) :
    (lookThrough look slots).1 =
      (slots.map Slot.entry).zipIdx.filterMap fun (entry, position) =>
        (told entry).map fun score => { position, entry, score } := by
  rw [lookThrough, List.zipIdx_map, List.zipIdx_map, List.filterMap_map, List.filterMap_map]
  refine List.filterMap_congr fun (slot, position) member => ?_
  have inside : slot ∈ slots := List.fst_mem_of_mem_zipIdx member
  simp only [Function.comp_apply, Prod.map_apply, id_eq, tells slot inside, keeps slot]

/-! ## Whole searches -/

theorem entries_lookupText (includeTypes : Bool) (needle : String) (slots : List Slot) :
    (lookupText includeTypes needle slots).2.map Slot.entry = slots.map Slot.entry := by
  rw [lookupText]
  split
  · rfl
  · exact entries_lookThrough (entry_lookForText includeTypes _) slots

theorem entries_lookupType (query : TypeExpr) (slots : List Slot) :
    (lookupType query slots).2.map Slot.entry = slots.map Slot.entry :=
  entries_lookThrough (entry_lookForType query) slots

section AllFaithful

variable {slots : List Slot} (faithful : AllFaithful slots)

include faithful

theorem faithful_lookupText (includeTypes : Bool) (needle : String) :
    AllFaithful (lookupText includeTypes needle slots).2 := by
  rw [lookupText]
  split
  · exact faithful
  · exact faithful_lookThrough (fun _ kept => faithful_lookForText kept includeTypes _) faithful

theorem faithful_lookupType (query : TypeExpr) : AllFaithful (lookupType query slots).2 :=
  faithful_lookThrough (fun _ kept => faithful_lookForType kept query) faithful

/-- Slots are searched for a text as their entries are. -/
theorem found_lookupText (includeTypes : Bool) (needle : String) :
    (lookupText includeTypes needle slots).1 =
      nameSearch includeTypes needle (slots.map Slot.entry) := by
  rw [lookupText, nameSearch]
  split
  · rfl
  · have found := found_lookThrough (textVerdict includeTypes (needleOf needle))
      (entry_lookForText includeTypes _) fun slot member =>
        fst_lookForText (faithful slot member) includeTypes _
    refine found.trans (List.filterMap_congr fun (entry, position) _ => ?_)
    simp only [textVerdict]
    split <;> rfl

/-- Slots are searched for a type as their entries are. -/
theorem found_lookupType (query : TypeExpr) :
    (lookupType query slots).1 = scored query (slots.map Slot.entry) := by
  have found := found_lookThrough (typeVerdict query) (entry_lookForType query)
    fun slot member => fst_lookForType (faithful slot member) query
  rw [lookupType, scored]
  refine congrArg (List.mergeSort · notWorse) (found.trans ?_)
  refine List.filterMap_congr fun (entry, position) _ => ?_
  simp only [typeVerdict]
  split <;> rfl

theorem lookupQuery_spec (query : TypeExpr) :
    (∃ error, lookupQuery query slots = .error error ∧
      typeSearch query (slots.map Slot.entry) = .error error) ∨
    ∃ found after, lookupQuery query slots = .ok (found, after) ∧
      typeSearch query (slots.map Slot.entry) = .ok found ∧
      after.map Slot.entry = slots.map Slot.entry ∧ AllFaithful after := by
  rw [lookupQuery, typeSearch]
  cases query.normalize with
  | error error => exact .inl ⟨error, rfl, rfl⟩
  | ok canonical =>
      refine .inr ⟨_, _, rfl, ?_, entries_lookupType canonical slots,
        faithful_lookupType faithful canonical⟩
      exact congrArg Except.ok (found_lookupType faithful canonical).symm

/-- A search in faithful slots fails or finds as the search among their entries does, and leaves
faithful slots of the same entries. -/
theorem lookup_spec (includeTypes : Bool) (query : TypeExpr) :
    (∃ error, lookup includeTypes query slots = .error error ∧
      answers includeTypes query (slots.map Slot.entry) = .error error) ∨
    ∃ found after, lookup includeTypes query slots = .ok (found, after) ∧
      answers includeTypes query (slots.map Slot.entry) = .ok found ∧
      after.map Slot.entry = slots.map Slot.entry ∧ AllFaithful after := by
  cases query with
  | var name =>
      refine .inr ⟨_, _, rfl, ?_, entries_lookupText includeTypes name slots,
        faithful_lookupText faithful includeTypes name⟩
      exact congrArg Except.ok (found_lookupText faithful includeTypes name).symm
  | _ => exact lookupQuery_spec faithful _

end AllFaithful

end Search
end SignatureSearch
