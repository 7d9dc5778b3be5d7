import Mathlib.Data.List.Pairwise
import SignatureSearch.Proofs.Search.Answers

/-!
# The order of matches

A search for a type finds every entry that is at all similar to it, once, with its similarity, the
most similar first, and equally similar ones in the order of the entries.  Cut to a limit, it leaves
out nothing that is more similar than what it keeps.
-/

namespace SignatureSearch
namespace Search

open Catalog (Entry)
open Signature (TypeExpr)

/-- Matches rank entries by their similarity to a canonical query. -/
structure Ranks (query : TypeExpr) (entries : List Entry) (found : List Match) : Prop where
  /-- The positions found are those of the entries that are at all similar. -/
  complete : ∀ position, (∃ listed ∈ found, listed.position = position) ↔
    ∃ entry, entries[position]? = some entry ∧ 0 < query.similarity entry.normalized
  /-- No position is found twice. -/
  once : (found.map Match.position).Nodup
  /-- A match has the entry at its position, and the similarity of that entry. -/
  measured : ∀ listed ∈ found, entries[listed.position]? = some listed.entry ∧
    listed.score = some (query.similarity listed.entry.normalized)
  /-- No match is before one that is more similar. -/
  descending : found.Pairwise fun a b => b.score.getD 0 ≤ a.score.getD 0
  /-- Equally similar matches are in the order of the entries. -/
  stable : found.Pairwise fun a b => a.score = b.score → a.position < b.position

/-- The entries that are at all similar to a canonical query, in their own order. -/
def similar (query : TypeExpr) (entries : List Entry) : List Match :=
  entries.zipIdx.filterMap fun (entry, position) =>
    let score := query.similarity entry.normalized
    if 0 < score then some { position, entry, score := some score } else none

theorem scored_eq (query : TypeExpr) (entries : List Entry) :
    scored query entries = (similar query entries).mergeSort notWorse :=
  rfl

theorem perm_scored (query : TypeExpr) (entries : List Entry) :
    (scored query entries).Perm (similar query entries) :=
  List.mergeSort_perm _ _

theorem notWorse_iff {a b : Match} : notWorse a b = true ↔ b.score.getD 0 ≤ a.score.getD 0 :=
  decide_eq_true_iff

theorem notWorse_trans (a b c : Match) (first : notWorse a b = true)
    (second : notWorse b c = true) : notWorse a c = true :=
  notWorse_iff.mpr ((notWorse_iff.mp second).trans (notWorse_iff.mp first))

theorem notWorse_total (a b : Match) : (notWorse a b || notWorse b a) = true := by
  rw [Bool.or_eq_true, notWorse_iff, notWorse_iff]
  exact le_total ..

/-- Matches are gathered in the order of the entries. -/
theorem pairwise_similar (query : TypeExpr) (entries : List Entry) :
    (similar query entries).Pairwise fun a b => a.position < b.position := by
  have places : entries.zipIdx.Pairwise fun a b => a.2 < b.2 := by
    rw [← List.pairwise_map, List.zipIdx_map_snd]
    exact List.pairwise_lt_range'
  have placed {row : Entry × Nat} {listed : Match}
      (kept : (if 0 < query.similarity row.1.normalized then
        some (⟨row.2, row.1, some (query.similarity row.1.normalized)⟩ : Match) else none) =
          some listed) : listed.position = row.2 := by
    split at kept
    · cases kept
      rfl
    · cases kept
  refine places.filterMap _ fun row other before listed kept listed' kept' => ?_
  rw [placed kept, placed kept']
  exact before

/-- Sorting leaves the matches of one score in the order in which they are. -/
theorem filter_score_mergeSort (found : List Match) (score : Option Nat) :
    (found.mergeSort notWorse).filter (fun listed => listed.score = score) =
      found.filter fun listed => listed.score = score := by
  have equal : (found.filter fun listed => listed.score = score).Pairwise
      fun a b => notWorse a b = true := by
    refine List.pairwise_of_forall_mem_list fun a member b other => ?_
    have one := (List.mem_filter.mp member).2
    have two := (List.mem_filter.mp other).2
    rw [decide_eq_true_iff] at one two
    rw [notWorse_iff, one, two]
  have kept := List.sublist_mergeSort notWorse_trans notWorse_total equal List.filter_sublist
  have still := kept.filter fun listed => decide (listed.score = score)
  rw [List.filter_filter] at still
  simp only [Bool.and_self] at still
  exact (still.eq_of_length ((List.mergeSort_perm found notWorse).filter _).length_eq.symm).symm

theorem ranks_scored (query : TypeExpr) (entries : List Entry) :
    Ranks query entries (scored query entries) where
  complete position := by
    constructor
    · rintro ⟨listed, member, rfl⟩
      obtain ⟨here, positive, -⟩ := mem_scored_iff.mp member
      exact ⟨_, here, positive⟩
    · rintro ⟨entry, here, positive⟩
      exact ⟨⟨position, entry, some (query.similarity entry.normalized)⟩,
        mem_scored_iff.mpr ⟨here, positive, rfl⟩, rfl⟩
  once := by
    have apart : ((similar query entries).map Match.position).Nodup :=
      List.pairwise_map.mpr ((pairwise_similar query entries).imp Nat.ne_of_lt)
    exact ((perm_scored query entries).map Match.position).nodup_iff.mpr apart
  measured listed member := by
    obtain ⟨here, -, score⟩ := mem_scored_iff.mp member
    exact ⟨here, score⟩
  descending :=
    (List.pairwise_mergeSort notWorse_trans notWorse_total _).imp notWorse_iff.mp
  stable := by
    refine List.pairwise_iff_forall_sublist.mpr fun {a b} pair same => ?_
    -- Both have one score, so they are in the order in which they were before sorting.
    have alike := pair.filter fun listed => decide (listed.score = a.score)
    rw [scored_eq, filter_score_mergeSort] at alike
    have before := alike.trans List.filter_sublist
    simp only [same, List.filter_cons, decide_true, if_true, List.filter_nil] at before
    exact List.pairwise_iff_forall_sublist.mp (pairwise_similar query entries) before

/-- Cut to a limit, matches leave out no entry that is more similar than one they keep. -/
theorem Ranks.cut_best {query : TypeExpr} {entries : List Entry} {found : List Match}
    (ranks : Ranks query entries found) (count : Nat) {position : Nat} {entry : Entry}
    (here : entries[position]? = some entry)
    (omitted : ∀ listed ∈ found.take count, listed.position ≠ position) :
    ∀ listed ∈ found.take count,
      query.similarity entry.normalized ≤ query.similarity listed.entry.normalized := by
  intro listed kept
  by_cases positive : 0 < query.similarity entry.normalized
  · obtain ⟨other, member, rfl⟩ := (ranks.complete position).mpr ⟨entry, here, positive⟩
    have later : other ∈ found.drop count := by
      rw [← List.take_append_drop count found, List.mem_append] at member
      exact member.resolve_left fun inside => omitted other inside rfl
    have split := ranks.descending
    rw [← List.take_append_drop count found, List.pairwise_append] at split
    have worse := split.2.2 listed kept other later
    obtain ⟨same, score⟩ := ranks.measured other (List.mem_of_mem_drop later)
    obtain ⟨-, best⟩ := ranks.measured listed (List.mem_of_mem_take kept)
    rw [score, best, Option.getD_some, Option.getD_some] at worse
    rwa [Option.some.inj (here.symm.trans same)]
  · exact (Nat.eq_zero_of_not_pos positive).trans_le (Nat.zero_le _)

end Search
end SignatureSearch
