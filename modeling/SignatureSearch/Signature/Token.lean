import SignatureSearch.Text.Blank

/-!
# Tokens of a signature

A signature is a sequence of arrows, punctuation marks and dotted names, with blanks allowed
between any two of them and needed only between two names.  A token carries the position of its
first character, counted in code points, and the last token stands for the end of the text.
-/

namespace SignatureSearch
namespace Signature

/-- What a token is. -/
inductive Lexeme where
  /-- The arrow of a function type. -/
  | arrow
  /-- The mark that opens a group, a tuple or the unit type. -/
  | openParen
  /-- The mark that closes a group, a tuple or the unit type. -/
  | closeParen
  /-- The mark between elements or fields. -/
  | comma
  /-- The mark that opens a record. -/
  | openBrace
  /-- The mark that closes a record. -/
  | closeBrace
  /-- The mark between a label and its type. -/
  | colon
  /-- The mark after the variable that a record extends. -/
  | bar
  /-- A name, dotted or not. -/
  | name (text : String)
  /-- The end of the signature. -/
  | finish
  deriving DecidableEq, Repr, Inhabited

/-- A lexeme at its position in a signature. -/
structure Token where
  /-- What stands at the position. -/
  lexeme : Lexeme
  /-- How many characters come before it. -/
  position : Nat
  deriving DecidableEq, Repr, Inhabited

namespace Lexeme

/-- How a lexeme is written. -/
def text : Lexeme → String
  | arrow => "->"
  | openParen => "("
  | closeParen => ")"
  | comma => ","
  | openBrace => "\x7b"
  | closeBrace => "\x7d"
  | colon => ":"
  | bar => "|"
  | name text => text
  | finish => ""

/-- The family to which a lexeme belongs. -/
def family : Lexeme → String
  | arrow => "arrow"
  | name _ => "ident"
  | finish => "end"
  | _ => "punct"

/-- The punctuation mark that a character is. -/
def mark? : Char → Option Lexeme
  | '(' => some openParen
  | ')' => some closeParen
  | ',' => some comma
  | '{' => some openBrace
  | '}' => some closeBrace
  | ':' => some colon
  | '|' => some bar
  | _ => none

/-- Whether a character may begin a segment of a name. -/
def startsName (c : Char) : Bool :=
  c.isAlpha || c == '_'

/-- Whether a character may follow in a segment of a name. -/
def continuesName (c : Char) : Bool :=
  c.isAlphanum || c == '_' || c == '\''

/-- The part of a text that continues a dotted name, apart from the text after it.  A dot belongs
to the name only when a segment begins after it. -/
def spanName : List Char → List Char × List Char
  | [] => ([], [])
  | [c] => if continuesName c then ([c], []) else ([], [c])
  | c :: d :: text =>
      if c = '.' ∧ startsName d then
        match spanName text with
        | (run, rest) => ('.' :: d :: run, rest)
      else if continuesName c then
        match spanName (d :: text) with
        | (run, rest) => (c :: run, rest)
      else ([], c :: d :: text)

/-- The lexeme at the head of a text, apart from the text after it. -/
def first? : List Char → Option (Lexeme × List Char)
  | '-' :: '>' :: text => some (arrow, text)
  | c :: text =>
      match mark? c with
      | some mark => some (mark, text)
      | none =>
          if startsName c then
            match spanName text with
            | (run, rest) => some (name (String.ofList (c :: run)), rest)
          else none
  | [] => none

theorem spanName_append (text : List Char) : (spanName text).1 ++ (spanName text).2 = text := by
  fun_induction spanName text <;> simp_all

theorem spanName_length_le (text : List Char) : (spanName text).2.length ≤ text.length := by
  have whole := congrArg List.length (spanName_append text)
  simp only [List.length_append] at whole
  omega

theorem first?_length_lt {text rest : List Char} {lexeme : Lexeme}
    (h : first? text = some (lexeme, rest)) : rest.length < text.length := by
  unfold first? at h
  split at h
  · simp only [Option.some.injEq, Prod.mk.injEq] at h
    simp only [List.length_cons, ← h.2]
    omega
  · rename_i text _
    split at h
    · simp only [Option.some.injEq, Prod.mk.injEq] at h
      simp [← h.2]
    · split at h
      · simp only [Option.some.injEq, Prod.mk.injEq] at h
        have short := spanName_length_le text
        simp only [List.length_cons, ← h.2]
        omega
      · exact absurd h (by simp)
  · exact absurd h (by simp)

end Lexeme

/-- A character at which no token starts. -/
structure StrayCharacter where
  /-- The character. -/
  character : Char
  /-- How many characters come before it. -/
  position : Nat
  deriving DecidableEq, Repr

namespace Token

/-- The tokens of a text that starts at a position, the end apart. -/
def scanFrom (position : Nat) (text : List Char) : Except StrayCharacter (List Token) :=
  match text with
  | [] => .ok []
  | c :: rest =>
      if Text.isBlank c then scanFrom (position + 1) rest
      else
        match _found : Lexeme.first? (c :: rest) with
        | none => .error { character := c, position }
        | some (lexeme, after) =>
            match scanFrom (position + lexeme.text.length) after with
            | .error stray => .error stray
            | .ok tokens => .ok ({ lexeme, position } :: tokens)
termination_by text.length
decreasing_by
  · simp
  · exact Lexeme.first?_length_lt _found

/-- The tokens of a signature, the end apart. -/
def scan (signature : String) : Except StrayCharacter (List Token) :=
  scanFrom 0 signature.toList

/-- The tokens of a signature, with the token for its end. -/
def tokenize (signature : String) : Except StrayCharacter (List Token) :=
  match scan signature with
  | .error stray => .error stray
  | .ok tokens => .ok (tokens ++ [{ lexeme := .finish, position := signature.length }])

end Token
end Signature
end SignatureSearch
