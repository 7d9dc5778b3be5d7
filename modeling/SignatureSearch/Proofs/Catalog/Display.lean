import SignatureSearch.Proofs.Search.OwnSignature
import SignatureSearch.Proofs.Signature.Homes
import SignatureSearch.Proofs.Signature.Labelled

/-!
# The shown canonical form

The canonical form of an entry is shown without homes.  A refused signature is shown as it is.  An
accepted one whose constructors have capital letters is shown as a text that is accepted again, with
the canonical form of the type without homes, and that text as a signature is shown as it is.
-/

namespace SignatureSearch
namespace Catalog
namespace Entry

open Signature (TypeExpr parse?)

variable {entry : Entry}

theorem normalized_of_refused {error : Signature.SyntaxError}
    (refused : parse? entry.signature = .error error) :
    entry.normalized = .var entry.signature := by
  simp [normalized, Signature.outcome, Signature.Outcome.isFallback, refused]

theorem firstForeign?_normalized (entry : Entry) : entry.normalized.firstForeign? = none := by
  cases read : parse? entry.signature with
  | error error =>
      rw [normalized_of_refused read]
      rfl
  | ok type =>
      rw [normalized_of_accepted read]
      exact (Signature.wellFormed_of_parse? read).canonical.firstForeign?_eq_none

/-- The canonical form of an entry can be shown. -/
theorem render_normalized (entry : Entry) :
    entry.normalized.render .bare = .ok entry.normalizedText := by
  rw [TypeExpr.render, TypeExpr.checked, firstForeign?_normalized]
  rfl

theorem normalizedText_of_refused {error : Signature.SyntaxError}
    (refused : parse? entry.signature = .error error) :
    entry.normalizedText = entry.signature := by
  rw [normalizedText, normalized_of_refused refused]
  rfl

/-- The shown text of an accepted signature is the qualified text of a canonical form. -/
theorem normalizedText_of_accepted {type : TypeExpr}
    (accepted : parse? entry.signature = .ok type) :
    entry.normalizedText = type.unhomed.canonical.text .qualified := by
  rw [normalizedText, normalized_of_accepted accepted, TypeExpr.text_bare,
    TypeExpr.unhomed_canonical]

/-- The shown text is accepted with the canonical form of the type without homes. -/
theorem parse?_normalizedText {type : TypeExpr} (accepted : parse? entry.signature = .ok type)
    (capitalized : type.Capitalized) :
    parse? entry.normalizedText = .ok type.unhomed.canonical := by
  rw [normalizedText_of_accepted accepted]
  exact ((Signature.wellFormed_of_parse? accepted).unhomed capitalized).canonical.parse?_text

/-- The shown text, as a signature, is shown as it is. -/
theorem normalizedText_again {type : TypeExpr} (accepted : parse? entry.signature = .ok type)
    (capitalized : type.Capitalized) {again : Entry}
    (same : again.signature = entry.normalizedText) :
    again.normalizedText = entry.normalizedText := by
  have accepted' : parse? again.signature = .ok type.unhomed.canonical := by
    rw [same, parse?_normalizedText accepted capitalized]
  calc again.normalizedText
      = type.unhomed.canonical.unhomed.canonical.text .qualified :=
        normalizedText_of_accepted accepted'
    _ = type.unhomed.canonical.text .qualified := by
        rw [TypeExpr.unhomed_canonical, TypeExpr.canonical_canonical, TypeExpr.unhomed_unhomed]
    _ = entry.normalizedText := (normalizedText_of_accepted accepted).symm

/-- What is shown as the canonical form of an entry is a fixed point.  A refused signature is shown
as it is.  An accepted one whose constructors, apart from the unit type, begin with capital letters
is shown as a text that is accepted with the canonical form of the type without homes, and every
entry with that text as its signature shows it as it is.  Every type in which a type stands at every
place has a canonical form, which is its own canonical form. -/
theorem normalizedText_fixed :
    (∀ entry : Entry, entry.normalized.render .bare = .ok entry.normalizedText) ∧
    (∀ (entry : Entry) (error : Signature.SyntaxError),
      parse? entry.signature = .error error → entry.normalizedText = entry.signature) ∧
    (∀ (entry : Entry) (type : TypeExpr), parse? entry.signature = .ok type → type.Capitalized →
      (∃ form, type.unhomed.normalize = .ok form ∧ parse? entry.normalizedText = .ok form) ∧
      ∀ again : Entry, again.signature = entry.normalizedText →
        again.normalizedText = entry.normalizedText) ∧
    ∀ type : TypeExpr, type.firstForeign? = none →
      ∃ form, type.normalize = .ok form ∧ form.normalize = .ok form := by
  refine ⟨render_normalized, ?_, ?_, ?_⟩
  · exact fun entry error refused => normalizedText_of_refused refused
  · intro entry type accepted capitalized
    have wellFormed := (Signature.wellFormed_of_parse? accepted).unhomed capitalized
    have form := TypeExpr.normalize_of_no_foreign wellFormed.firstForeign?_eq_none
    exact ⟨⟨_, form, parse?_normalizedText accepted capitalized⟩,
      fun again => normalizedText_again accepted capitalized⟩
  · intro type typed
    have labelled : type.canonical.firstForeign? = none :=
      (TypeExpr.firstForeign?_renameWith _ type).trans typed
    have again := TypeExpr.normalize_of_no_foreign labelled
    rw [TypeExpr.canonical_canonical] at again
    exact ⟨_, TypeExpr.normalize_of_no_foreign typed, again⟩

/-- A decoder of a module is shown without it and with a label for its variable, and the shown text
is shown as it is. -/
theorem normalizedText_fixed_decoder :
    ∃ form,
      (TypeExpr.apply ⟨"", "Decoder"⟩ [.var "msg"]).normalize = .ok form ∧
        parse? "Decoder a" = .ok form ∧
          (⟨"json", "Decode", "map", "Decoder a", ""⟩ : Entry).normalizedText = "Decoder a" := by
  have accepted : parse? "Json.Decoder msg" = .ok (.apply ⟨"Json", "Decoder"⟩ [.var "msg"]) := by
    have decoder : (TypeExpr.apply ⟨"Json", "Decoder"⟩ [.var "msg"]).WellFormed := by
      refine .apply ⟨by decide, .inr (.last (by decide))⟩ (List.forall_mem_singleton.mpr ?_)
      exact .var (by decide)
    exact decoder.parse?_text
  have capitalized : (TypeExpr.apply ⟨"Json", "Decoder"⟩ [.var "msg"]).Capitalized := by
    intro head args inside
    obtain same : TypeExpr.apply head args = .apply ⟨"Json", "Decoder"⟩ [.var "msg"] := by
      simpa [TypeExpr.subtrees, TypeExpr.subtreesOf] using inside
    rw [(TypeExpr.apply.inj same).1]
    exact .inr (by decide)
  have shown : (⟨"json", "Decode", "map", "Json.Decoder msg", ""⟩ : Entry).normalizedText =
      "Decoder a" :=
    Eq.trans (normalizedText_of_accepted accepted) (by decide)
  obtain ⟨-, -, fixed, -⟩ := normalizedText_fixed
  obtain ⟨⟨form, canonical, read⟩, again⟩ :=
    fixed ⟨"json", "Decode", "map", "Json.Decoder msg", ""⟩ _ accepted capitalized
  rw [shown] at read again
  exact ⟨form, canonical, read, again _ rfl⟩

end Entry
end Catalog
end SignatureSearch
