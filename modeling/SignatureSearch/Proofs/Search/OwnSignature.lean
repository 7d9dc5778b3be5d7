import SignatureSearch.Proofs.Search.Answers
import SignatureSearch.Proofs.Signature.RoundTrip
import SignatureSearch.Proofs.Signature.SelfSimilarity

/-!
# An entry and its own signature

A query with the signature of an entry returns the entry, unless the signature is blank or shows no
variable and no constructor outside records.  When types are compared, the entry has the type that
is asked for, and nothing is more similar to that type.
-/

namespace SignatureSearch

open Signature (TypeExpr parse parse?)

namespace Catalog
namespace Entry

theorem normalized_of_accepted {entry : Entry} {type : TypeExpr}
    (accepted : parse? entry.signature = .ok type) : entry.normalized = type.canonical := by
  simp [normalized, Signature.outcome, Signature.Outcome.isFallback, accepted]

theorem typeText_of_parse_eq_var {entry : Entry} {name : String}
    (parsed : parse entry.signature = .var name) : entry.typeText = name := by
  rw [typeText, Entry.parsed, parsed]
  rfl

end Entry
end Catalog

namespace Search

open Catalog (Entry)

variable {entries : List Entry} {position : Nat} {entry : Entry}

/-- A search for the text that an entry shows as its type returns the entry. -/
theorem nameSearch_own_iff {name : String} (listed : entries[position]? = some entry)
    (parsed : parse entry.signature = .var name) :
    (∃ own ∈ nameSearch true name entries, own.position = position ∧ own.entry = entry) ↔
      Text.isAllBlank entry.signature.toList = false := by
  rw [← Signature.isAllBlank_of_parse_eq_var parsed, ← Bool.not_eq_true, ← needleOf_eq_nil_iff]
  constructor
  · rintro ⟨own, member, -⟩
    exact (mem_nameSearch_iff.mp member).1
  · intro nonempty
    have shown := typeHas_typeText entry
    rw [Catalog.Entry.typeText_of_parse_eq_var parsed] at shown
    refine ⟨⟨position, entry, none⟩, mem_nameSearch_iff.mpr ⟨nonempty, listed, ?_, rfl⟩, rfl, rfl⟩
    rw [nameMatches, shown, Bool.and_self, Bool.or_true]

/-- A search for the type of an entry returns the entry when the type shows anything. -/
theorem scored_own_iff {type : TypeExpr} (listed : entries[position]? = some entry)
    (accepted : parse? entry.signature = .ok type) :
    (∃ own ∈ scored type.canonical entries, own.position = position ∧ own.entry = entry) ↔
      type.Exposes := by
  have positive : 0 < type.canonical.similarity entry.normalized ↔ type.Exposes := by
    rw [Catalog.Entry.normalized_of_accepted accepted, TypeExpr.similarity_self_pos_iff,
      TypeExpr.exposes_canonical_iff]
  constructor
  · rintro ⟨own, member, -, rfl⟩
    exact positive.mp (mem_scored_iff.mp member).2.1
  · intro exposes
    exact ⟨⟨position, entry, some (type.canonical.similarity entry.normalized)⟩,
      mem_scored_iff.mpr ⟨listed, positive.mpr exposes, rfl⟩, rfl, rfl⟩

theorem typeSearch_of_accepted {signature : String} {type : TypeExpr}
    (accepted : parse? signature = .ok type) (entries : List Entry) :
    typeSearch type entries = .ok (scored type.canonical entries) :=
  typeSearch_of_typed (Signature.wellFormed_of_parse? accepted).firstForeign?_eq_none entries

/-- What a search for the type of an entry returns is no more similar to it than the entry. -/
theorem scored_own_best {type : TypeExpr} (accepted : parse? entry.signature = .ok type)
    {own other : Match} (ownFound : own ∈ scored type.canonical entries) (same : own.entry = entry)
    (otherFound : other ∈ scored type.canonical entries) :
    own.score = some (type.canonical.similarity own.entry.normalized) ∧
      other.score = some (type.canonical.similarity other.entry.normalized) ∧
      type.canonical.similarity other.entry.normalized ≤
        type.canonical.similarity own.entry.normalized := by
  obtain ⟨-, -, ownScore⟩ := mem_scored_iff.mp ownFound
  obtain ⟨-, -, otherScore⟩ := mem_scored_iff.mp otherFound
  refine ⟨ownScore, otherScore, ?_⟩
  rw [same, Catalog.Entry.normalized_of_accepted accepted]
  exact TypeExpr.similarity_le_self _ _

/-- The signature of a listed entry returns the entry at its position, unless the signature is blank
or is accepted with a type, not a variable, that has no variable and no constructor outside records.
When the type is not a variable and the entry is returned, no returned entry has a higher score. -/
theorem rank_own_signature (listed : entries[position]? = some entry) :
    ∃ found, rank entry.signature entries = .ok found ∧
      ((∃ own ∈ found, own.position = position ∧ own.entry = entry) ↔
        Text.isAllBlank entry.signature.toList = false ∧
          ¬ ∃ type, parse? entry.signature = .ok type ∧ (∀ name, type ≠ .var name) ∧
            ¬ type.Exposes) ∧
      ∀ type, parse? entry.signature = .ok type → (∀ name, type ≠ .var name) →
        ∀ own ∈ found, own.entry = entry → ∀ other ∈ found,
          own.score = some (type.canonical.similarity own.entry.normalized) ∧
          other.score = some (type.canonical.similarity other.entry.normalized) ∧
          type.canonical.similarity other.entry.normalized ≤
            type.canonical.similarity own.entry.normalized := by
  by_cases worded : ∃ name, parse entry.signature = .var name
  · obtain ⟨name, parsed⟩ := worded
    have noType : ∀ type, parse? entry.signature = .ok type → ¬ ∀ name, type ≠ .var name := by
      intro type accepted structured
      rw [Signature.parse_of_accepted accepted] at parsed
      exact structured name parsed
    refine ⟨_, rank_of_var parsed entries, ?_, ?_⟩
    · rw [nameSearch_own_iff listed parsed]
      constructor
      · intro notBlank
        refine ⟨notBlank, ?_⟩
        rintro ⟨type, accepted, structured, -⟩
        exact noType type accepted structured
      · exact And.left
    · intro type accepted structured
      exact absurd structured (noType type accepted)
  · have structured : ∀ name, parse entry.signature ≠ .var name := not_exists.mp worded
    cases outcome : parse? entry.signature with
    | error error => exact absurd (Signature.parse_of_refused outcome) (structured _)
    | ok type =>
        have parsed := Signature.parse_of_accepted outcome
        refine ⟨scored type.canonical entries, ?_, ?_, ?_⟩
        · rw [rank_of_ne_var structured, parsed, typeSearch_of_accepted outcome]
        · rw [scored_own_iff listed outcome]
          constructor
          · intro exposes
            refine ⟨Signature.not_blank_of_accepted outcome, ?_⟩
            rintro ⟨_, same, -, hidden⟩
            cases same
            exact hidden exposes
          · rintro ⟨-, shown⟩
            by_contra hidden
            exact shown ⟨type, rfl, fun name => parsed ▸ structured name, hidden⟩
        · intro _ accepted _ own ownFound same other otherFound
          cases accepted
          exact scored_own_best outcome ownFound same otherFound

/-- A function to the unit type is returned for its own signature. -/
theorem rank_own_signature_listed :
    ∃ found,
      rank "a -> ()" [⟨"core", "Basics", "never", "Never -> a", ""⟩,
        ⟨"core", "Basics", "ignore", "a -> ()", ""⟩] = .ok found ∧
      ∃ own ∈ found, own.position = 1 ∧
        own.entry = ⟨"core", "Basics", "ignore", "a -> ()", ""⟩ := by
  have listed : [⟨"core", "Basics", "never", "Never -> a", ""⟩,
      ⟨"core", "Basics", "ignore", "a -> ()", ""⟩][1]? =
      some (⟨"core", "Basics", "ignore", "a -> ()", ""⟩ : Entry) := rfl
  obtain ⟨found, ranked, returned, -⟩ := rank_own_signature listed
  refine ⟨found, ranked, returned.mpr ⟨by decide, ?_⟩⟩
  rintro ⟨type, accepted, -, hidden⟩
  have plain : Signature.IsVariable "a" :=
    ⟨⟨'a', [], rfl, by decide, by simp⟩, by decide, by simp⟩
  have wellFormed : (TypeExpr.function [.var "a"] .unit).WellFormed :=
    .function (by simp) (by simpa using .var plain) .unit rfl
  have parsed : parse? "a -> ()" = .ok (.function [.var "a"] .unit) := wellFormed.parse?_text
  change parse? "a -> ()" = .ok type at accepted
  rw [parsed] at accepted
  cases accepted
  exact hidden ⟨_, .result .here, trivial⟩

end Search
end SignatureSearch
