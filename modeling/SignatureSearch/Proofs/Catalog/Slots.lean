import SignatureSearch.Catalog.Slot

/-!
# What slots keep

A slot is faithful when everything that it keeps is what its entry amounts to.  An untouched slot is
faithful, and looking at a faithful slot gives what the entry amounts to and leaves the slot
faithful, whatever it kept before.
-/

namespace SignatureSearch
namespace Catalog
namespace Slot

/-! ## The entry of a slot -/

@[simp]
theorem entry_readOutcome (slot : Slot) : slot.readOutcome.2.entry = slot.entry := by
  rw [readOutcome]
  split <;> rfl

@[simp]
theorem entry_readNormalized (slot : Slot) : slot.readNormalized.2.entry = slot.entry := by
  rw [readNormalized]
  split
  · rfl
  · exact slot.entry_readOutcome

@[simp]
theorem entry_readTypeText (slot : Slot) : slot.readTypeText.2.entry = slot.entry := by
  rw [readTypeText]
  split
  · rfl
  · exact slot.entry_readOutcome

theorem entry_settle (slot : Slot) : slot.settle.entry = slot.entry :=
  slot.entry_readNormalized

@[simp]
theorem entry_view (slot : Slot) : slot.view.2.entry = slot.entry := by
  simp [view]

/-! ## What is kept -/

/-- Everything that a slot keeps is what its entry amounts to. -/
structure Faithful (slot : Slot) : Prop where
  /-- The signature was parsed as it is. -/
  outcome : ∀ outcome ∈ slot.outcome, outcome = Signature.outcome slot.entry.signature
  /-- The canonical form is that of the entry. -/
  normalized : ∀ type ∈ slot.normalized, type = slot.entry.normalized
  /-- The type is shown as that of the entry. -/
  typeText : ∀ text ∈ slot.typeText, text = slot.entry.typeText

theorem faithful_untouched (entry : Entry) : (untouched entry).Faithful :=
  ⟨by simp [untouched], by simp [untouched], by simp [untouched]⟩

variable {slot : Slot}

theorem fst_readOutcome (faithful : slot.Faithful) :
    slot.readOutcome.1 = Signature.outcome slot.entry.signature := by
  rw [readOutcome]
  split
  · rename_i outcome kept
    exact faithful.outcome outcome kept
  · rfl

theorem Faithful.readOutcome (faithful : slot.Faithful) : slot.readOutcome.2.Faithful := by
  rw [Slot.readOutcome]
  split
  · exact faithful
  · exact ⟨by simp, faithful.normalized, faithful.typeText⟩

theorem fst_readNormalized (faithful : slot.Faithful) :
    slot.readNormalized.1 = slot.entry.normalized := by
  rw [readNormalized]
  split
  · rename_i type kept
    exact faithful.normalized type kept
  · change (if slot.readOutcome.1.isFallback then slot.readOutcome.1.type
      else slot.readOutcome.1.type.canonical) = slot.entry.normalized
    rw [fst_readOutcome faithful]
    rfl

theorem Faithful.readNormalized (faithful : slot.Faithful) :
    slot.readNormalized.2.Faithful := by
  rw [Slot.readNormalized]
  split
  · exact faithful
  · have parsed := faithful.readOutcome
    refine ⟨parsed.outcome, ?_, parsed.typeText⟩
    rintro type ⟨⟩
    change (if slot.readOutcome.1.isFallback then slot.readOutcome.1.type
      else slot.readOutcome.1.type.canonical) = slot.readOutcome.2.entry.normalized
    rw [fst_readOutcome faithful, entry_readOutcome]
    rfl

theorem fst_readTypeText (faithful : slot.Faithful) :
    slot.readTypeText.1 = slot.entry.typeText := by
  rw [readTypeText]
  split
  · rename_i text kept
    exact faithful.typeText text kept
  · change slot.readOutcome.1.type.text .bare = _
    rw [fst_readOutcome faithful]
    rfl

theorem Faithful.readTypeText (faithful : slot.Faithful) : slot.readTypeText.2.Faithful := by
  rw [Slot.readTypeText]
  split
  · exact faithful
  · have parsed := faithful.readOutcome
    refine ⟨parsed.outcome, parsed.normalized, ?_⟩
    rintro text ⟨⟩
    change slot.readOutcome.1.type.text .bare = slot.readOutcome.2.entry.typeText
    rw [fst_readOutcome faithful, entry_readOutcome]
    rfl

theorem Faithful.settle (faithful : slot.Faithful) : slot.settle.Faithful :=
  faithful.readNormalized

theorem Faithful.view (faithful : slot.Faithful) : slot.view.2.Faithful :=
  faithful.readOutcome.readTypeText.readNormalized

end Slot
end Catalog
end SignatureSearch
