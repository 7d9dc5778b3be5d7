import SignatureSearch.Proofs.Signature.Scanning

/-!
# The scanner turn by turn

A scanner that goes through a text by places takes all the blanks at a place in one turn, or one
token.  Every turn leads to a later place of the text, so as many turns as the text has characters,
and one for its end, are enough, and what the turns give is what the scanner gives.
-/

namespace SignatureSearch
namespace Signature
namespace Token

/-- What is done at a place of a text. -/
inductive Turn where
  /-- Nothing is left of the text. -/
  | finished
  /-- Blanks are passed over up to the next place. -/
  | blanks (next : Nat)
  /-- A token is taken that goes up to the next place. -/
  | token (token : Token) (next : Nat)
  /-- No token starts at the place. -/
  | stray (stray : StrayCharacter)

namespace Turn

/-- The place at which the turn after a turn starts, if there is one. -/
def next? : Turn → Option Nat
  | blanks next | token _ next => some next
  | finished | stray _ => none

/-- The turn at a place. -/
def take (text : List Char) (place : Nat) : Turn :=
  match text.drop place with
  | [] => finished
  | c :: rest =>
      if Text.isBlank c then blanks (place + (1 + (rest.takeWhile Text.isBlank).length))
      else
        match Lexeme.first? (c :: rest) with
        | none => stray { character := c, position := place }
        | some (lexeme, _) =>
            token { lexeme, position := place } (place + lexeme.text.length)

end Turn

/-- The tokens of a text from a place on, the end apart, if they take no more than a number of
turns. -/
def scanWithin (text : List Char) : Nat → Nat → Option (Except StrayCharacter (List Token))
  | 0, _ => none
  | turns + 1, place =>
      match Turn.take text place with
      | .finished => some (.ok [])
      | .blanks next => scanWithin text turns next
      | .token token next => (scanWithin text turns next).map (Except.map (token :: ·))
      | .stray stray => some (.error stray)

/-- The tokens of a signature, with the token for its end, if they take no more than a number of
turns. -/
def tokenizeWithin (turns : Nat) (signature : String) :
    Option (Except StrayCharacter (List Token)) :=
  (scanWithin signature.toList turns 0).map
    (Except.map (· ++ [{ lexeme := .finish, position := signature.length }]))

/-! ## Every turn leads on -/

theorem length_text_pos {text rest : List Char} {lexeme : Lexeme}
    (found : Lexeme.first? text = some (lexeme, rest)) : 0 < lexeme.text.length := by
  have whole := length_of_first? found
  have shorter := Lexeme.first?_length_lt found
  omega

/-- A turn after which there is another one leads to a later place of the text. -/
theorem Turn.advances {text : List Char} {place next : Nat}
    (moved : (take text place).next? = some next) : place < next ∧ next ≤ text.length := by
  have left := List.length_drop (i := place) (l := text)
  unfold take at moved
  split at moved
  · cases moved
  · rename_i c rest shape
    rw [shape, List.length_cons] at left
    split at moved
    · cases moved
      have run := (List.takeWhile_sublist Text.isBlank (l := rest)).length_le
      omega
    · split at moved
      · cases moved
      · rename_i lexeme after found
        cases moved
        have long := length_text_pos found
        have whole := length_of_first? found
        rw [List.length_cons] at whole
        omega

/-! ## The turns give what the scanner gives -/

/-- The scanner passes over all the blanks at a place. -/
theorem scanFrom_blanks {c : Char} (blank : Text.isBlank c = true) (position : Nat)
    (rest : List Char) :
    scanFrom position (c :: rest) =
      scanFrom (position + (1 + (rest.takeWhile Text.isBlank).length))
        (rest.dropWhile Text.isBlank) := by
  have gap : Text.isAllBlank (c :: rest.takeWhile Text.isBlank) = true := by
    rw [Text.isAllBlank, List.all_cons, blank, List.all_takeWhile]
    rfl
  have passed := scanFrom_blank_append gap position (rest.dropWhile Text.isBlank)
  rwa [List.cons_append, List.takeWhile_append_dropWhile, List.length_cons,
    Nat.add_comm (List.length _)] at passed

/-- What the scanner gives from a place on is what a turn takes there and what the scanner gives
from the next place on. -/
theorem Turn.scans (text : List Char) (place : Nat) :
    scanFrom place (text.drop place) =
      match take text place with
      | finished => .ok []
      | blanks next => scanFrom next (text.drop next)
      | token taken next => (scanFrom next (text.drop next)).map (taken :: ·)
      | stray found => .error found := by
  unfold take
  cases shape : text.drop place with
  | nil => rw [scanFrom]
  | cons c rest =>
      by_cases blank : Text.isBlank c = true
      · have run : (rest.takeWhile Text.isBlank ++ rest.dropWhile Text.isBlank).drop
            (rest.takeWhile Text.isBlank).length = rest.dropWhile Text.isBlank := List.drop_left
        rw [List.takeWhile_append_dropWhile] at run
        simp only [if_pos blank]
        rw [scanFrom_blanks blank, ← List.drop_drop, shape, Nat.add_comm 1, List.drop_succ_cons,
          run]
      · simp only [if_neg blank]
        rw [scanFrom, if_neg blank]
        cases found : Lexeme.first? (c :: rest) with
        | none => rfl
        | some taken =>
            obtain ⟨lexeme, after⟩ := taken
            dsimp only
            rw [← List.drop_drop, shape, ← (longest_of_first? found).rest_eq]
            cases scanFrom (place + lexeme.text.length) after <;> rfl

theorem scanWithin_eq {text : List Char} {turns place : Nat}
    (enough : text.length - place < turns) :
    scanWithin text turns place = some (scanFrom place (text.drop place)) := by
  induction turns generalizing place with
  | zero => omega
  | succ turns ih =>
      have onward : ∀ next, (Turn.take text place).next? = some next →
          scanWithin text turns next = some (scanFrom next (text.drop next)) := by
        intro next moved
        obtain ⟨later, inside⟩ := Turn.advances moved
        exact ih (by omega)
      rw [scanWithin, Turn.scans]
      cases taken : Turn.take text place with
      | finished => rfl
      | blanks next => exact onward next (by rw [taken]; rfl)
      | token token next =>
          dsimp only
          rw [onward next (by rw [taken]; rfl)]
          rfl
      | stray stray => rfl

/-- Turns for all the characters of a signature and for its end are enough. -/
theorem tokenizeWithin_eq {signature : String} {turns : Nat} (enough : signature.length < turns) :
    tokenizeWithin turns signature = some (tokenize signature) := by
  have scanned : scanWithin signature.toList turns 0 = some (scan signature) :=
    scanWithin_eq (by rw [String.length_toList]; omega)
  rw [tokenizeWithin, scanned, tokenize]
  cases scan signature <;> rfl

end Token
end Signature
end SignatureSearch
