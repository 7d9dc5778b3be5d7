import SignatureSearch.Proofs.Search.OwnSignature
import SignatureSearch.Proofs.Signature.Frame

/-!
# Searches that cannot tell types apart

A search for a type sees neither the names that authors gave to type variables nor the modules that
they wrote before constructors.  The scores of the entries alone decide which positions are returned
and in which order, and types that resemble each other have the same scores.
-/

namespace SignatureSearch
namespace Search

open Catalog (Entry)
open Signature (TypeExpr parse?)

/-- The place of a match among the entries, with its score. -/
def Match.place (found : Match) : Nat × Option Nat :=
  (found.position, found.score)

/-- Whether a place with a score may stand before another. -/
def scoredNotWorse (a b : Nat × Option Nat) : Bool :=
  b.2.getD 0 ≤ a.2.getD 0

/-- The positions of positive scores with those scores, the highest first. -/
def ranked (scores : List Nat) : List (Nat × Option Nat) :=
  let positive := scores.zipIdx.filterMap fun (score, position) =>
    if 0 < score then some (position, some score) else none
  positive.mergeSort scoredNotWorse

/-- Nothing of the entries but their scores decides what is returned and in which order. -/
theorem places_scored (query : TypeExpr) (entries : List Entry) :
    (scored query entries).map Match.place =
      ranked (entries.map fun entry => query.similarity entry.normalized) := by
  have order : ∀ a b : Match, notWorse a b = scoredNotWorse a.place b.place := fun _ _ => rfl
  rw [scored, ranked, List.map_mergeSort fun a _ b _ => order a b, List.map_filterMap,
    List.zipIdx_map, List.filterMap_map]
  refine congrArg (List.mergeSort · _) (List.filterMap_congr fun entry _ => ?_)
  simp only [Function.comp_apply, Prod.map_fst, Prod.map_snd, id_eq]
  split <;> rfl

/-- The signatures of two entries are accepted with types that resemble each other. -/
def SignaturesResemble (entry other : Entry) : Prop :=
  ∃ type otherType, parse? entry.signature = .ok type ∧
    parse? other.signature = .ok otherType ∧ type.Resembles otherType

/-- Entries whose signatures resemble each other in pairs have the same scores. -/
theorem scores_eq_of_resemble {query other : TypeExpr} (alike : query.Resembles other)
    {entries others : List Entry} (pairs : List.Forall₂ SignaturesResemble entries others) :
    entries.map (fun entry => query.canonical.similarity entry.normalized) =
      others.map fun entry => other.canonical.similarity entry.normalized := by
  induction pairs with
  | nil => rfl
  | cons pair _ ih =>
      obtain ⟨type, otherType, accepted, otherAccepted, resembles⟩ := pair
      rw [List.map_cons, List.map_cons, ih, Catalog.Entry.normalized_of_accepted accepted,
        Catalog.Entry.normalized_of_accepted otherAccepted, alike.similarity_eq resembles]

/-- Queries that resemble each other, among entries whose signatures do in pairs, return the same
positions in the same order with the same scores.  This holds of every query tree, also of a
variable. -/
theorem typeSearch_of_resembles {query other : TypeExpr} (typed : query.firstForeign? = none)
    (alike : query.Resembles other) {entries others : List Entry}
    (pairs : List.Forall₂ SignaturesResemble entries others) :
    ∃ found otherFound, typeSearch query entries = .ok found ∧
      typeSearch other others = .ok otherFound ∧
      found.map Match.place = otherFound.map Match.place ∧
      (∀ hit ∈ found, entries[hit.position]? = some hit.entry) ∧
      ∀ hit ∈ otherFound, others[hit.position]? = some hit.entry := by
  have otherTyped : other.firstForeign? = none := by rw [← alike.firstForeign?_eq, typed]
  refine ⟨scored query.canonical entries, scored other.canonical others, ?_, ?_, ?_, ?_, ?_⟩
  · rw [typeSearch, TypeExpr.normalize_of_no_foreign typed]
    rfl
  · rw [typeSearch, TypeExpr.normalize_of_no_foreign otherTyped]
    rfl
  · rw [places_scored, places_scored, scores_eq_of_resemble alike pairs]
  · exact fun hit member => (mem_scored_iff.mp member).1
  · exact fun hit member => (mem_scored_iff.mp member).1

/-- A decoder with its module and one without, each with a variable of its own, are searched for
alike, among signatures that differ in the same way. -/
theorem typeSearch_of_resembles_decoder :
    ∃ found otherFound,
      typeSearch (.apply ⟨"Json.Decode", "Decoder"⟩ [.var "value"])
        [⟨"json", "Decode", "map", "Json.Decode.Decoder a", ""⟩] = .ok found ∧
      typeSearch (.apply ⟨"", "Decoder"⟩ [.var "a"])
        [⟨"core", "Codec", "read", "Decoder msg", "Reads."⟩] = .ok otherFound ∧
      found.map Match.place = otherFound.map Match.place := by
  have decoder : Signature.IsIdentifier "Decoder" :=
    ⟨'D', "ecoder".toList, by decide, by decide, List.all_eq_true.mp (by decide)⟩
  have json : Signature.IsIdentifier "Json" :=
    ⟨'J', "son".toList, by decide, by decide, List.all_eq_true.mp (by decide)⟩
  have decode : Signature.IsIdentifier "Decode" :=
    ⟨'D', "ecode".toList, by decide, by decide, List.all_eq_true.mp (by decide)⟩
  have full : (TypeExpr.apply ⟨"Json.Decode", "Decoder"⟩ [.var "a"]).WellFormed := by
    refine .apply ⟨decoder, .inr (.step json (.last decode))⟩ (List.forall_mem_singleton.mpr ?_)
    exact .var ⟨⟨'a', [], rfl, by decide, by simp⟩, by decide, by simp⟩
  have bare : (TypeExpr.apply ⟨"", "Decoder"⟩ [.var "msg"]).WellFormed := by
    refine .apply ⟨decoder, .inl ⟨rfl, 'D', rfl, by decide⟩⟩ (List.forall_mem_singleton.mpr ?_)
    exact .var ⟨⟨'m', ['s', 'g'], rfl, by decide, List.all_eq_true.mp (by decide)⟩, by decide,
      by simp⟩
  obtain ⟨found, otherFound, searched, otherSearched, same, -, -⟩ :=
    @typeSearch_of_resembles (.apply ⟨"Json.Decode", "Decoder"⟩ [.var "value"])
      (.apply ⟨"", "Decoder"⟩ [.var "a"]) rfl (TypeExpr.resembles_iff.mpr (by decide))
      [⟨"json", "Decode", "map", "Json.Decode.Decoder a", ""⟩]
      [⟨"core", "Codec", "read", "Decoder msg", "Reads."⟩]
      (.cons ⟨_, _, full.parse?_text, bare.parse?_text, TypeExpr.resembles_iff.mpr (by decide)⟩
        .nil)
  exact ⟨found, otherFound, searched, otherSearched, same⟩

end Search
end SignatureSearch
