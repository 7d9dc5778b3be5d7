import SignatureSearch.Signature.SyntaxError
import SignatureSearch.Signature.TypeExpr

/-!
# Parsing signatures

The grammar of signatures, read by recursive descent.  A type is one or more applications between
arrows; an application is an atom with its arguments; an atom is a name, a group, a tuple, the unit
type or a record.  Every step returns the tokens it leaves together with the fact that they are
fewer, which is why the descent ends.
-/

namespace SignatureSearch
namespace Signature

/-- A fault at a token, or at the end of the text. -/
structure Refusal where
  /-- What is wrong. -/
  fault : Fault
  /-- The position of the token, none at the end. -/
  position? : Option Nat
  deriving DecidableEq, Repr

/-- The tokens that a step leaves of those it was given, fewer than these. -/
abbrev Rest (tokens : List Token) : Type :=
  { rest : List Token // rest.length < tokens.length }

/-- The tokens that a step leaves of those it was given, no more than these. -/
abbrev Remainder (tokens : List Token) : Type :=
  { rest : List Token // rest.length ≤ tokens.length }

/-- What a step reads from the head of some tokens, and what it leaves. -/
abbrev Reading (α : Type) (tokens : List Token) : Type :=
  Except Refusal (α × Rest tokens)

/-- What a step that may read nothing reads from the head of some tokens, and what it leaves. -/
abbrev Repetition (α : Type) (tokens : List Token) : Type :=
  Except Refusal (List α × Remainder tokens)

namespace Refusal

/-- The refusal of the token at the head, or of the end, where something else is called for. -/
def expected (expectation : Expectation) : List Token → Refusal
  | [] => { fault := .expected expectation .finish, position? := none }
  | token :: _ => { fault := .expected expectation token.lexeme, position? := token.position }

end Refusal

/-- Whether an undotted name that does not begin with a capital letter. -/
def isVariableName (text : String) : Bool :=
  match text.toList with
  | [] => true
  | c :: rest => !c.isUpper && !(c :: rest).contains '.'

/-- The type that a name denotes. -/
def ofName (text : String) : TypeExpr :=
  if isVariableName text then .var text else .apply (QualifiedName.ofDotted text) []

/-- The constructor that a type is, when it is one that can take arguments. -/
def constructor? : TypeExpr → Option QualifiedName
  | .apply head [] => if head = { home := "", name := "()" } then none else some head
  | _ => none

/-- The type of a head with arguments after it. -/
def applied (position? : Option Nat) (head : TypeExpr) (args : List TypeExpr) :
    Except Refusal TypeExpr :=
  match args with
  | [] => .ok head
  | _ :: _ =>
      match constructor? head with
      | some name => .ok (.apply name args)
      | none => .error { fault := .argumentsRefused, position? }

/-- The type of applications between arrows. -/
def joined (first : TypeExpr) : List TypeExpr → TypeExpr
  | [] => first
  | second :: more =>
      let parts := second :: more
      TypeExpr.arrows (first :: parts.dropLast) (parts.getLast (List.cons_ne_nil _ _))

/-- The type of elements between parentheses. -/
def enclosed (first : TypeExpr) : List TypeExpr → TypeExpr
  | [] => first
  | second :: more => .tuple (first :: second :: more)

/-- A given mark at the head of some tokens. -/
def readMark (mark : Lexeme) (tokens : List Token) : Reading Unit tokens :=
  match tokens with
  | [] => .error (Refusal.expected (.mark mark) [])
  | token :: rest =>
      if token.lexeme = mark then .ok ((), ⟨rest, by simp⟩)
      else .error (Refusal.expected (.mark mark) (token :: rest))

/-- A record label at the head of some tokens. -/
def readLabel (tokens : List Token) : Reading String tokens :=
  match tokens with
  | [] => .error (Refusal.expected .name [])
  | token :: rest =>
      match token.lexeme with
      | .name text =>
          if isVariableName text then .ok (text, ⟨rest, by simp⟩)
          else .error { fault := .invalidLabel text, position? := token.position }
      | _ => .error (Refusal.expected .name (token :: rest))

/-- Whether an argument can start with a lexeme. -/
def startsAtom : Lexeme → Bool
  | .name _ | .openParen | .openBrace => true
  | _ => false

/-- Whether some tokens start with the variable that a record extends and the bar after it. -/
def startsExtension : List Token → Bool
  | ⟨.name _, _⟩ :: ⟨.bar, _⟩ :: _ => true
  | _ => false

mutual

/-- A type at the head of some tokens. -/
def readType (tokens : List Token) : Reading TypeExpr tokens :=
  match readApplication tokens with
  | .error refusal => .error refusal
  | .ok (first, ⟨rest, _⟩) =>
      match readArrows rest with
      | .error refusal => .error refusal
      | .ok (more, ⟨rest, _⟩) => .ok (joined first more, ⟨rest, by omega⟩)
termination_by (tokens.length, 4)

/-- The applications that follow an application, each after an arrow. -/
def readArrows (tokens : List Token) : Repetition TypeExpr tokens :=
  match tokens with
  | ⟨.arrow, _⟩ :: tail =>
      match readApplication tail with
      | .error refusal => .error refusal
      | .ok (part, ⟨rest, _⟩) =>
          match readArrows rest with
          | .error refusal => .error refusal
          | .ok (more, ⟨rest, _⟩) => .ok (part :: more, ⟨rest, by simp; omega⟩)
  | tokens => .ok ([], ⟨tokens, Nat.le_refl _⟩)
termination_by (tokens.length, 0)

/-- An atom with its arguments at the head of some tokens. -/
def readApplication (tokens : List Token) : Reading TypeExpr tokens :=
  match readAtom tokens with
  | .error refusal => .error refusal
  | .ok (head, ⟨rest, _⟩) =>
      match readArguments rest with
      | .error refusal => .error refusal
      | .ok (args, ⟨rest, _⟩) =>
          match applied (tokens.head?.map Token.position) head args with
          | .error refusal => .error refusal
          | .ok type => .ok (type, ⟨rest, by omega⟩)
termination_by (tokens.length, 3)

/-- The atoms at the head of some tokens. -/
def readArguments (tokens : List Token) : Repetition TypeExpr tokens :=
  match tokens with
  | [] => .ok ([], ⟨[], Nat.le_refl _⟩)
  | token :: tail =>
      if startsAtom token.lexeme then
        match readAtom (token :: tail) with
        | .error refusal => .error refusal
        | .ok (arg, ⟨rest, _⟩) =>
            match readArguments rest with
            | .error refusal => .error refusal
            | .ok (more, ⟨rest, _⟩) => .ok (arg :: more, ⟨rest, by omega⟩)
      else .ok ([], ⟨token :: tail, Nat.le_refl _⟩)
termination_by (tokens.length, 2)

/-- An atom at the head of some tokens. -/
def readAtom (tokens : List Token) : Reading TypeExpr tokens :=
  match tokens with
  | ⟨.name text, _⟩ :: rest => .ok (ofName text, ⟨rest, by simp⟩)
  | ⟨.openParen, _⟩ :: tail =>
      match readGroup tail with
      | .error refusal => .error refusal
      | .ok (type, ⟨rest, _⟩) => .ok (type, ⟨rest, by simp; omega⟩)
  | ⟨.openBrace, _⟩ :: tail =>
      match readRecord tail with
      | .error refusal => .error refusal
      | .ok (type, ⟨rest, _⟩) => .ok (type, ⟨rest, by simp; omega⟩)
  | tokens => .error (Refusal.expected .type tokens)
termination_by (tokens.length, 1)

/-- What follows an opening parenthesis, up to the parenthesis that closes it. -/
def readGroup (tokens : List Token) : Reading TypeExpr tokens :=
  match tokens with
  | ⟨.closeParen, _⟩ :: rest => .ok (.unit, ⟨rest, by simp⟩)
  | tokens =>
      match readType tokens with
      | .error refusal => .error refusal
      | .ok (first, ⟨rest, _⟩) =>
          match readElements rest with
          | .error refusal => .error refusal
          | .ok (more, ⟨rest, _⟩) =>
              match readMark .closeParen rest with
              | .error refusal => .error refusal
              | .ok ((), ⟨rest, _⟩) => .ok (enclosed first more, ⟨rest, by omega⟩)
termination_by (tokens.length, 5)

/-- The types that follow a type, each after a comma. -/
def readElements (tokens : List Token) : Repetition TypeExpr tokens :=
  match tokens with
  | ⟨.comma, _⟩ :: tail =>
      match readType tail with
      | .error refusal => .error refusal
      | .ok (element, ⟨rest, _⟩) =>
          match readElements rest with
          | .error refusal => .error refusal
          | .ok (more, ⟨rest, _⟩) => .ok (element :: more, ⟨rest, by simp; omega⟩)
  | tokens => .ok ([], ⟨tokens, Nat.le_refl _⟩)
termination_by (tokens.length, 0)

/-- What follows an opening brace, up to the brace that closes it. -/
def readRecord (tokens : List Token) : Reading TypeExpr tokens :=
  match tokens with
  | ⟨.closeBrace, _⟩ :: rest => .ok (.record [] none, ⟨rest, by simp⟩)
  | tokens =>
      if startsExtension tokens then
        match readLabel tokens with
        | .error refusal => .error refusal
        | .ok (extension, ⟨rest, _⟩) =>
            match readFields rest.tail with
            | .error refusal => .error refusal
            | .ok (fields, ⟨rest, _⟩) =>
                .ok (.record fields (some extension), ⟨rest, by simp_all; omega⟩)
      else
        match readFields tokens with
        | .error refusal => .error refusal
        | .ok (fields, ⟨rest, _⟩) => .ok (.record fields none, ⟨rest, by omega⟩)
termination_by (tokens.length, 7)

/-- The fields of a record at the head of some tokens, with the brace that closes it. -/
def readFields (tokens : List Token) : Reading (List (String × TypeExpr)) tokens :=
  match readField tokens with
  | .error refusal => .error refusal
  | .ok (first, ⟨rest, _⟩) =>
      match readMoreFields rest with
      | .error refusal => .error refusal
      | .ok (more, ⟨rest, _⟩) =>
          match readMark .closeBrace rest with
          | .error refusal => .error refusal
          | .ok ((), ⟨rest, _⟩) => .ok (first :: more, ⟨rest, by omega⟩)
termination_by (tokens.length, 6)

/-- The fields that follow a field, each after a comma. -/
def readMoreFields (tokens : List Token) : Repetition (String × TypeExpr) tokens :=
  match tokens with
  | ⟨.comma, _⟩ :: tail =>
      match readField tail with
      | .error refusal => .error refusal
      | .ok (field, ⟨rest, _⟩) =>
          match readMoreFields rest with
          | .error refusal => .error refusal
          | .ok (more, ⟨rest, _⟩) => .ok (field :: more, ⟨rest, by simp; omega⟩)
  | tokens => .ok ([], ⟨tokens, Nat.le_refl _⟩)
termination_by (tokens.length, 0)

/-- A label with its type at the head of some tokens. -/
def readField (tokens : List Token) : Reading (String × TypeExpr) tokens :=
  match readLabel tokens with
  | .error refusal => .error refusal
  | .ok (label, ⟨rest, _⟩) =>
      match readMark .colon rest with
      | .error refusal => .error refusal
      | .ok ((), ⟨rest, _⟩) =>
          match readType rest with
          | .error refusal => .error refusal
          | .ok (type, ⟨rest, _⟩) => .ok ((label, type), ⟨rest, by omega⟩)
termination_by (tokens.length, 5)

end

/-- The type that some tokens write, all of them read. -/
def ofTokens (tokens : List Token) : Except Refusal TypeExpr :=
  match readType tokens with
  | .error refusal => .error refusal
  | .ok (type, ⟨[], _⟩) => .ok type
  | .ok (_, ⟨token :: rest, _⟩) => .error (Refusal.expected .finish (token :: rest))

/-- The type that a signature writes. -/
def parse? (signature : String) : Except SyntaxError TypeExpr :=
  match Token.scan signature with
  | .error stray =>
      .error { fault := .stray stray.character, position := stray.position, signature }
  | .ok tokens =>
      match ofTokens tokens with
      | .ok type => .ok type
      | .error refusal =>
          .error
            { fault := refusal.fault
              position := refusal.position?.getD signature.length
              signature }

/-- A signature as far as it can be understood. -/
structure Outcome where
  /-- The type it writes, or a variable named by the whole text when it writes none. -/
  type : TypeExpr
  /-- Why it writes no type, when it writes none. -/
  error? : Option SyntaxError
  deriving Repr

namespace Outcome

/-- Whether the whole text had to stand for the type. -/
def isFallback (outcome : Outcome) : Bool :=
  outcome.error?.isSome

end Outcome

/-- A signature as far as it can be understood. -/
def outcome (signature : String) : Outcome :=
  match parse? signature with
  | .ok type => { type, error? := none }
  | .error error => { type := .var signature, error? := some error }

/-- The type that a text stands for, whatever the text. -/
def parse (signature : String) : TypeExpr :=
  (outcome signature).type

end Signature
end SignatureSearch
