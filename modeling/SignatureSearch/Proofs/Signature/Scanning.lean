import Mathlib.Logic.Relation
import SignatureSearch.Proofs.Signature.Layout

/-!
# Where a scan stops

A text is read from its beginning, one blank or the longest lexeme at a time.  There is only one way
to do that, so there is at most one place at which neither a blank nor a lexeme starts.  The scanner
stops there, and reads every text that has no such place to its end.
-/

namespace SignatureSearch
namespace Signature

open Lexeme (startsName spanName mark? first?)

/-- A text is a lexeme with some text after it, and begins with no longer lexeme. -/
structure Longest (lexeme : Lexeme) (rest text : List Char) : Prop where
  /-- The lexeme has a text. -/
  written : lexeme.IsWritten
  /-- The text begins with that of the lexeme. -/
  whole : lexeme.text.toList ++ rest = text
  /-- The text begins with no longer lexeme. -/
  longest : ∀ other : Lexeme, other.IsWritten → other.text.toList <+: text →
    other.text.length ≤ lexeme.text.length

/-- A text is read on by a blank or by the longest lexeme at its head. -/
inductive Advance : List Char → List Char → Prop
  /-- A blank is passed over. -/
  | blank {c : Char} {rest : List Char} (blank : Text.isBlank c = true) : Advance (c :: rest) rest
  /-- A lexeme is read. -/
  | lexeme {lexeme : Lexeme} {rest text : List Char} (longest : Longest lexeme rest text) :
      Advance text rest

/-- Reading a text from its beginning comes to a place before its end, and neither a blank nor a
lexeme starts there. -/
structure StopsAt (text : List Char) (place : Nat) : Prop where
  /-- There is a character at the place. -/
  inside : place < text.length
  /-- All of the text before it is read. -/
  reached : Relation.ReflTransGen Advance text (text.drop place)
  /-- Nothing starts there. -/
  stuck : ∀ rest, ¬ Advance (text.drop place) rest

/-! ## One way to read a text -/

theorem Longest.length_unique {lexeme other : Lexeme} {rest more text : List Char}
    (one : Longest lexeme rest text) (two : Longest other more text) :
    lexeme.text.length = other.text.length :=
  Nat.le_antisymm (two.longest lexeme one.written ⟨rest, one.whole⟩)
    (one.longest other two.written ⟨more, two.whole⟩)

theorem Longest.rest_eq {lexeme : Lexeme} {rest text : List Char}
    (longest : Longest lexeme rest text) : rest = text.drop lexeme.text.length := by
  rw [← longest.whole, ← String.length_toList, List.drop_left]

theorem Longest.not_blank {lexeme : Lexeme} {rest text : List Char} {c : Char}
    (longest : Longest lexeme rest (c :: text)) : Text.isBlank c = false := by
  obtain ⟨d, run, shape, notBlank, -⟩ := longest.written.begins
  have whole := longest.whole
  rw [shape, List.cons_append, List.cons.injEq] at whole
  rwa [← whole.1]

theorem advance_rightUnique : Relator.RightUnique Advance := by
  intro text rest other one two
  cases one with
  | blank blank =>
      cases two with
      | blank _ => rfl
      | lexeme longest => exact absurd blank (by simp [longest.not_blank])
  | lexeme longest =>
      cases two with
      | blank blank => exact absurd blank (by simp [longest.not_blank])
      | lexeme longest' => rw [longest.rest_eq, longest'.rest_eq, longest.length_unique longest']

theorem Advance.suffix {text rest : List Char} (advance : Advance text rest) : rest <:+ text := by
  cases advance with
  | blank _ => exact List.suffix_cons _ _
  | lexeme longest => exact ⟨_, longest.whole⟩

theorem not_advance_nil (rest : List Char) : ¬ Advance [] rest := by
  intro advance
  generalize empty : ([] : List Char) = text at advance
  cases advance with
  | blank _ => cases empty
  | lexeme longest =>
      obtain ⟨c, run, shape, -⟩ := longest.written.begins
      have whole := longest.whole
      rw [← empty, shape] at whole
      cases whole

section Reaches

variable {text rest : List Char} (reached : Relation.ReflTransGen Advance text rest)

include reached

theorem suffix_of_reached : rest <:+ text := by
  induction reached with
  | refl => exact List.suffix_refl text
  | tail _ advance ih => exact advance.suffix.trans ih

/-- Nothing is read beyond what cannot be read on, so reading stops at one place only. -/
theorem eq_of_reached_of_stuck {other : List Char} (stuck : ∀ next, ¬ Advance rest next)
    (reached' : Relation.ReflTransGen Advance text other)
    (stuck' : ∀ next, ¬ Advance other next) : rest = other := by
  rcases reached.total_of_right_unique advance_rightUnique reached' with on | on
  · exact (Relation.reflTransGen_iff_eq stuck).mp on |>.symm
  · exact (Relation.reflTransGen_iff_eq stuck').mp on

end Reaches

theorem StopsAt.unique {text : List Char} {place other : Nat} (one : StopsAt text place)
    (two : StopsAt text other) : place = other := by
  have same := congrArg List.length
    (eq_of_reached_of_stuck one.reached one.stuck two.reached two.stuck)
  have inside := one.inside
  have inside' := two.inside
  rw [List.length_drop, List.length_drop] at same
  omega

/-! ## The scanner reads the longest lexeme -/

/-- A name is taken as far as it can go on. -/
theorem length_le_spanName {run text : List Char} (continues : Continues run)
    (begins : run <+: text) : run.length ≤ (spanName text).1.length := by
  fun_induction spanName text generalizing run with
  | case1 => exact begins.length_le
  | case2 c _ => exact begins.length_le
  | case3 c stops =>
      cases continues with
      | nil => exact Nat.le_refl _
      | char continues _ => exact absurd continues (by simp_all)
      | dot _ _ => exact absurd begins.length_le (by simp)
  | case4 c d text both run' rest found ih =>
      rw [found] at ih
      cases continues with
      | nil => exact Nat.zero_le _
      | char continues _ =>
          rw [List.cons_prefix_cons] at begins
          exact absurd (begins.1.trans both.1) (ne_dot_of_continuesName continues)
      | dot _ more =>
          rw [List.cons_prefix_cons, List.cons_prefix_cons] at begins
          exact Nat.succ_le_succ (Nat.succ_le_succ (ih more begins.2.2))
  | case5 c d text notDot _ run' rest found ih =>
      rw [found] at ih
      cases continues with
      | nil => exact Nat.zero_le _
      | char _ more => exact Nat.succ_le_succ (ih more (List.cons_prefix_cons.mp begins).2)
      | dot starts _ =>
          rw [List.cons_prefix_cons, List.cons_prefix_cons] at begins
          obtain ⟨rfl, rfl, -⟩ := begins
          exact absurd ⟨rfl, starts⟩ notDot
  | case6 c d text notDot stops =>
      cases continues with
      | nil => exact Nat.le_refl _
      | char continues _ =>
          rw [(List.cons_prefix_cons.mp begins).1] at continues
          exact absurd continues stops
      | dot starts _ =>
          rw [List.cons_prefix_cons, List.cons_prefix_cons] at begins
          obtain ⟨rfl, rfl, -⟩ := begins
          exact absurd ⟨rfl, starts⟩ notDot

theorem first?_of_startsName {c : Char} (starts : startsName c = true) (text : List Char) :
    first? (c :: text) =
      some (.name (String.ofList (c :: (spanName text).1)), (spanName text).2) := by
  rw [first?]
  · simp [mark?_eq_none_of_startsName starts, starts]
  · rintro tail rfl
    exact absurd rfl (ne_dash_of_startsName starts)

/-- What is found at the head of a text is the longest lexeme there. -/
theorem longest_of_first? {text rest : List Char} {lexeme : Lexeme}
    (found : first? text = some (lexeme, rest)) : Longest lexeme rest text := by
  obtain ⟨written, rfl, -⟩ := written_of_first? found
  refine ⟨written, rfl, fun other otherWritten begins => ?_⟩
  obtain ⟨more, whole⟩ := begins
  rcases otherWritten.shape with rfl | ⟨c, mark⟩ | ⟨c, run, rfl, starts, continues⟩
  · rw [← whole] at found
    cases found
    exact Nat.le_refl _
  · rw [← whole, (isWritten_of_mark mark).2.1, List.singleton_append, first?_mark mark] at found
    cases found
    exact Nat.le_refl _
  · -- What is found is a name too, and goes on as far as it can.
    have long := length_le_spanName continues (List.prefix_append run more)
    rw [← whole, Lexeme.text, String.toList_ofList, List.cons_append,
      first?_of_startsName starts] at found
    cases found
    simpa [Lexeme.text] using long

/-- Where nothing is found and no blank stands, reading does not go on. -/
theorem not_advance_of_first? {c : Char} {text : List Char} (notBlank : ¬ Text.isBlank c = true)
    (missing : first? (c :: text) = none) (rest : List Char) : ¬ Advance (c :: text) rest := by
  intro advance
  cases advance with
  | blank blank => exact notBlank blank
  | lexeme longest => exact not_prefix_of_first? missing longest.written ⟨rest, longest.whole⟩

/-! ## Where the scanner stops -/

theorem length_of_first? {text rest : List Char} {lexeme : Lexeme}
    (found : first? text = some (lexeme, rest)) :
    lexeme.text.length + rest.length = text.length := by
  rw [← (written_of_first? found).2.1, List.length_append, String.length_toList]

/-- A scan that succeeds reads all of the text. -/
theorem reached_of_scanned {position : Nat} {text : List Char} {tokens : List Token}
    (scanned : Token.scanFrom position text = .ok tokens) :
    Relation.ReflTransGen Advance text [] := by
  fun_induction Token.scanFrom position text generalizing tokens with
  | case1 => exact .refl
  | case2 position c rest blank ih => exact (ih scanned).head (.blank blank)
  | case3 => cases scanned
  | case4 => cases scanned
  | case5 position c rest _ lexeme after found tokens inner ih =>
      exact (ih inner).head (.lexeme (longest_of_first? found))

/-- A scan that fails reads the text up to a character at which reading does not go on. -/
theorem reached_of_stray {position : Nat} {text : List Char} {stray : StrayCharacter}
    (failed : Token.scanFrom position text = .error stray) :
    ∃ back, Relation.ReflTransGen Advance text (stray.character :: back) ∧
      (∀ rest, ¬ Advance (stray.character :: back) rest) ∧
      stray.position + (stray.character :: back).length = position + text.length := by
  fun_induction Token.scanFrom position text generalizing stray with
  | case1 => cases failed
  | case2 position c rest blank ih =>
      obtain ⟨back, reached, stuck, place⟩ := ih failed
      refine ⟨back, reached.head (.blank blank), stuck, place.trans ?_⟩
      rw [List.length_cons]
      omega
  | case3 position c rest notBlank missing =>
      cases failed
      exact ⟨rest, .refl, not_advance_of_first? notBlank missing, rfl⟩
  | case4 position c rest _ lexeme after found inner stopped ih =>
      cases failed
      obtain ⟨back, reached, stuck, place⟩ := ih stopped
      refine ⟨back, reached.head (.lexeme (longest_of_first? found)), stuck, place.trans ?_⟩
      rw [← length_of_first? found]
      omega
  | case5 => cases failed

theorem scan_eq_of_tokenize {signature : String} {stray : StrayCharacter}
    (failed : Token.tokenize signature = .error stray) :
    Token.scan signature = .error stray := by
  rw [Token.tokenize] at failed
  split at failed
  · rename_i inner
    rwa [inner]
  · cases failed

/-- The scanner fails at the one place at which reading does not go on. -/
theorem stopsAt_iff_of_stray {signature : String} {stray : StrayCharacter}
    (failed : Token.tokenize signature = .error stray) {place : Nat} :
    StopsAt signature.toList place ↔ place = stray.position := by
  obtain ⟨back, reached, stuck, lengths⟩ := reached_of_stray (scan_eq_of_tokenize failed)
  have dropped : signature.toList.drop stray.position = stray.character :: back := by
    rw [List.suffix_iff_eq_drop.mp (suffix_of_reached reached)]
    congr 1
    omega
  have stops : StopsAt signature.toList stray.position := by
    refine ⟨?_, ?_, ?_⟩
    · rw [List.length_cons] at lengths
      omega
    · rwa [dropped]
    · rwa [dropped]
  constructor
  · exact fun other => other.unique stops
  · rintro rfl
    exact stops

/-- A text that is scanned has no place at which reading stops. -/
theorem not_stopsAt_of_tokenize {signature : String} {tokens : List Token}
    (scanned : Token.tokenize signature = .ok tokens) (place : Nat) :
    ¬ StopsAt signature.toList place := by
  intro stops
  rw [Token.tokenize] at scanned
  split at scanned
  · cases scanned
  · rename_i inner
    have rest := eq_of_reached_of_stuck stops.reached stops.stuck (reached_of_scanned inner)
      not_advance_nil
    exact absurd (List.drop_eq_nil_iff.mp rest) (Nat.not_le.mpr stops.inside)

end Signature
end SignatureSearch
