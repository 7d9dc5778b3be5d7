import SignatureSearch.Proofs.Signature.Faults
import SignatureSearch.Proofs.Signature.Lexing

/-!
# The descent by places

The rules of the grammar read by places in one list of tokens, the end among them.  A rule looks at
tokens by their places, goes on past some of them, and calls other rules, each nested call with one
call less to spend; nothing in it says that it comes to an end or stays inside the list.

The rules that call no others are run here.  At the place where an end of the tokens begins they do
what the reader does to which that end is given.
-/

namespace SignatureSearch
namespace Signature

/-- How a rule that goes through tokens by places ends. -/
inductive Ending (α : Type) where
  /-- A value is read, and the tokens go on at a place. -/
  | read (value : α) (next : Nat)
  /-- The token at a position of the signature is refused. -/
  | refused (fault : Fault) (position : Nat)
  /-- The rule has looked at a place where there is no token. -/
  | outside
  /-- The rule has spent all of its calls. -/
  | unfinished

/-- What comes after a value that is read. -/
def Ending.andThen {α β : Type} (ending : Ending α) (next : α → Nat → Ending β) : Ending β :=
  match ending with
  | read value place => next value place
  | refused fault position => refused fault position
  | outside => outside
  | unfinished => unfinished

/-- A rule that reads tokens from a place on. -/
def Descent (α : Type) : Type :=
  List Token → Nat → Ending α

namespace Descent

instance : Monad Descent where
  pure value := fun _ place => .read value place
  bind rule next := fun tokens place =>
    (rule tokens place).andThen fun value after => next value tokens after

variable {α β : Type}

/-- The rule that has no calls left. -/
def exhausted : Descent α :=
  fun _ _ => .unfinished

/-- The rule that refuses what is at a position. -/
def refuse (fault : Fault) (position : Nat) : Descent α :=
  fun _ _ => .refused fault position

/-- The token at a distance from the place. -/
def look (distance : Nat) : Descent Token :=
  fun tokens place =>
    match tokens[place + distance]? with
    | some token => .read token place
    | none => .outside

/-- To the place after. -/
def step : Descent Unit :=
  fun _ place => .read () (place + 1)

/-- Past the token at the place, unless it is the end. -/
def advance : Descent Unit := do
  let token ← look 0
  if token.lexeme = .finish then
    return ()
  else
    step

/-- Refuses the token at the place where something else is called for. -/
def missed (expectation : Expectation) : Descent α := do
  let token ← look 0
  refuse (.expected expectation token.lexeme) token.position

/-- Whether a mark is at the place, and past it if it is. -/
def accept (mark : Lexeme) : Descent Bool := do
  let token ← look 0
  if token.lexeme = mark then
    step
    return true
  else
    return false

/-- Past a mark that has to be at the place. -/
def expect (mark : Lexeme) : Descent Unit := do
  if ← accept mark then
    return ()
  else
    missed (.mark mark)

/-- A record label. -/
def label : Descent String := do
  let token ← look 0
  match token.lexeme with
  | .name text =>
      advance
      if isVariableName text then
        return text
      else
        refuse (.invalidLabel text) token.position
  | _ => missed .name

/-- Whether an argument starts at the place. -/
def atAtom : Descent Bool := do
  let token ← look 0
  return startsAtom token.lexeme

/-- The variable that a record extends, with the bar after it, if it extends one. -/
def extension : Descent (Option String) := do
  let first ← look 0
  if first.lexeme.isName then
    let second ← look 1
    if second.lexeme = .bar then
      let name ← label
      advance
      return some name
    else
      return none
  else
    return none

/-- A head with the arguments after it, of which the first token is given. -/
def apply (start : Token) (head : TypeExpr) (args : List TypeExpr) : Descent TypeExpr :=
  match applied (some start.position) head args with
  | .ok type => return type
  | .error refusal => refuse refusal.fault start.position

/-- The items that a rule reads as long as another rule goes on. -/
def repeated (goes : Descent Bool) (item : Descent α) : Nat → Descent (List α)
  | 0 => exhausted
  | turns + 1 => do
      if ← goes then
        let first ← item
        let more ← repeated goes item turns
        return first :: more
      else
        return []

/-- The fields of a record, with the brace that closes it. -/
def fields (field : Descent (String × TypeExpr)) (turns : Nat) :
    Descent (List (String × TypeExpr)) := do
  let first ← field
  let more ← repeated (accept .comma) field turns
  expect .closeBrace
  return first :: more

mutual

/-- A type. -/
def type : Nat → Descent TypeExpr
  | 0 => exhausted
  | calls + 1 => do
      let first ← application calls
      let more ← repeated (accept .arrow) (application calls) calls
      return joined first more

/-- An atom with its arguments. -/
def application : Nat → Descent TypeExpr
  | 0 => exhausted
  | calls + 1 => do
      let start ← look 0
      let head ← atom calls
      let args ← repeated atAtom (atom calls) calls
      apply start head args

/-- An atom. -/
def atom : Nat → Descent TypeExpr
  | 0 => exhausted
  | calls + 1 => do
      let token ← look 0
      match token.lexeme with
      | .name text =>
          advance
          return ofName text
      | .openParen =>
          advance
          group calls
      | .openBrace =>
          advance
          record calls
      | _ => missed .type

/-- What follows an opening parenthesis, up to the parenthesis that closes it. -/
def group : Nat → Descent TypeExpr
  | 0 => exhausted
  | calls + 1 => do
      if ← accept .closeParen then
        return .unit
      else
        let first ← type calls
        let more ← repeated (accept .comma) (type calls) calls
        expect .closeParen
        return enclosed first more

/-- What follows an opening brace, up to the brace that closes it. -/
def record : Nat → Descent TypeExpr
  | 0 => exhausted
  | calls + 1 => do
      if ← accept .closeBrace then
        return .record [] none
      else
        let base ← extension
        let listed ← fields (field calls) calls
        return .record listed base

/-- A label with its type. -/
def field : Nat → Descent (String × TypeExpr)
  | 0 => exhausted
  | calls + 1 => do
      let name ← label
      expect .colon
      let type ← type calls
      return (name, type)

end

/-! ## Running rules -/

variable (tokens : List Token) (place : Nat)

@[simp]
theorem pure_apply (value : α) : (pure value : Descent α) tokens place = .read value place := rfl

@[simp]
theorem bind_apply (rule : Descent α) (next : α → Descent β) :
    (rule >>= next) tokens place =
      (rule tokens place).andThen fun value after => next value tokens after := rfl

@[simp]
theorem ite_apply (goes : Prop) [Decidable goes] (rule other : Descent α) :
    (if goes then rule else other) tokens place =
      if goes then rule tokens place else other tokens place := by
  split <;> rfl

@[simp]
theorem step_apply : step tokens place = .read () (place + 1) := rfl

@[simp]
theorem refuse_apply (fault : Fault) (position : Nat) :
    (refuse fault position : Descent α) tokens place = .refused fault position := rfl

end Descent

namespace Ending

variable {α β : Type}

@[simp]
theorem read_andThen (value : α) (place : Nat) (next : α → Nat → Ending β) :
    (read value place).andThen next = next value place := rfl

@[simp]
theorem refused_andThen (fault : Fault) (position : Nat) (next : α → Nat → Ending β) :
    (refused fault position).andThen next = refused fault position := rfl

end Ending

/-! ## Places -/

/-- Tokens with an end after them. -/
structure Ended where
  /-- The tokens before the end. -/
  inner : List Token
  /-- The position of the end. -/
  last : Nat

namespace Ended

variable (ended : Ended)

/-- All of the tokens, the end among them. -/
def tokens : List Token :=
  ended.inner ++ [{ lexeme := .finish, position := ended.last }]

/-- The place at which the last of the tokens before the end begin. -/
def placeOf (rest : List Token) : Nat :=
  ended.inner.length - rest.length

/-- The token at the place at which the last of the tokens before the end begin. -/
def tokenAt (rest : List Token) : Token :=
  { lexeme := nextLexeme rest
    position := (rest.head?.map Token.position).getD ended.last }

/-- How a rule ends that reads what a reader reads. -/
def ending {α : Type} {kept : List Token → Prop} :
    Except Refusal (α × Subtype kept) → Ending α
  | .error refusal => .refused refusal.fault (refusal.position?.getD ended.last)
  | .ok (value, rest) => .read value (ended.placeOf rest.1)

section Places

variable {ended} {rest : List Token} (suffix : rest <:+ ended.inner)

include suffix

theorem getElem?_placeOf : ended.tokens[ended.placeOf rest]? = some (ended.tokenAt rest) := by
  obtain ⟨front, whole⟩ := suffix
  have place : ended.placeOf rest = front.length := by
    rw [placeOf, ← whole, List.length_append, Nat.add_sub_cancel_right]
  rw [place, tokens, ← whole, List.append_assoc, List.getElem?_append_right (Nat.le_refl _),
    Nat.sub_self]
  cases rest <;> rfl

theorem look_here :
    Descent.look 0 ended.tokens (ended.placeOf rest) =
      .read (ended.tokenAt rest) (ended.placeOf rest) := by
  rw [Descent.look, Nat.add_zero, getElem?_placeOf suffix]

theorem missed_eq {α : Type} (expectation : Expectation) :
    (Descent.missed expectation : Descent α) ended.tokens (ended.placeOf rest) =
      .refused (Refusal.expected expectation rest).fault
        ((Refusal.expected expectation rest).position?.getD ended.last) := by
  simp only [Descent.missed, Descent.bind_apply, look_here suffix, Ending.read_andThen]
  cases rest <;> rfl

theorem accept_other {mark : Lexeme} (other : nextLexeme rest ≠ mark) :
    Descent.accept mark ended.tokens (ended.placeOf rest) = .read false (ended.placeOf rest) := by
  simp [Descent.accept, look_here suffix, tokenAt, other]

theorem atAtom_eq :
    Descent.atAtom ended.tokens (ended.placeOf rest) =
      .read (startsAtom (nextLexeme rest)) (ended.placeOf rest) := by
  simp [Descent.atAtom, look_here suffix, tokenAt]

end Places

section Tokens

variable {ended} {token : Token} {tail : List Token} (suffix : token :: tail <:+ ended.inner)

include suffix

theorem suffix_of_cons : tail <:+ ended.inner :=
  (List.suffix_cons token tail).trans suffix

theorem placeOf_tail : ended.placeOf (token :: tail) + 1 = ended.placeOf tail := by
  have inside := suffix.length_le
  rw [List.length_cons] at inside
  rw [placeOf, placeOf, List.length_cons]
  omega

theorem look_next :
    Descent.look 1 ended.tokens (ended.placeOf (token :: tail)) =
      .read (ended.tokenAt tail) (ended.placeOf (token :: tail)) := by
  rw [Descent.look, placeOf_tail suffix, getElem?_placeOf (suffix_of_cons suffix)]

theorem advance_eq (inner : token.lexeme ≠ .finish) :
    Descent.advance ended.tokens (ended.placeOf (token :: tail)) =
      .read () (ended.placeOf tail) := by
  simp [Descent.advance, look_here suffix, tokenAt, nextLexeme, inner, placeOf_tail suffix]

theorem accept_eq :
    Descent.accept token.lexeme ended.tokens (ended.placeOf (token :: tail)) =
      .read true (ended.placeOf tail) := by
  simp [Descent.accept, look_here suffix, tokenAt, nextLexeme, placeOf_tail suffix]

end Tokens

/-- The end is not gone past. -/
theorem advance_last :
    Descent.advance ended.tokens (ended.placeOf []) = .read () (ended.placeOf []) := by
  simp [Descent.advance, look_here (List.nil_suffix (l := ended.inner)), tokenAt, nextLexeme]

/-- Arguments are taken or refused as the reader of an application does. -/
theorem apply_eq {rest left final : List Token} (fewer : left.length < rest.length)
    (kept : final.length ≤ left.length) (head : TypeExpr) (args : List TypeExpr) :
    Descent.apply (ended.tokenAt rest) head args ended.tokens (ended.placeOf final) =
      ended.ending
        (match applied (rest.head?.map Token.position) head args with
          | .error refusal => .error refusal
          | .ok type => .ok (type, ⟨final, Nat.lt_of_le_of_lt kept fewer⟩) :
            Reading TypeExpr rest) := by
  cases rest with
  | nil => exact absurd fewer (Nat.not_lt_zero _)
  | cons token tail =>
      change (match applied (some token.position) head args with
        | .ok type => (return type : Descent TypeExpr)
        | .error refusal => Descent.refuse refusal.fault token.position) _ _ = _
      dsimp only [List.head?_cons, Option.map_some]
      cases refused : applied (some token.position) head args with
      | ok type => rfl
      | error refusal =>
          rw [applied_refused refused]
          rfl

variable {rest : List Token} (suffix : rest <:+ ended.inner)

include suffix

theorem expect_eq (mark : Lexeme) (inner : mark ≠ .finish) :
    Descent.expect mark ended.tokens (ended.placeOf rest) = ended.ending (readMark mark rest) := by
  cases rest with
  | nil =>
      simp only [Descent.expect, Descent.bind_apply, accept_other suffix (Ne.symm inner)]
      exact missed_eq suffix (.mark mark)
  | cons token tail =>
      by_cases here : token.lexeme = mark
      · subst here
        simp [Descent.expect, accept_eq suffix, readMark, ending]
      · simp only [Descent.expect, Descent.bind_apply, accept_other suffix here, readMark,
          if_neg here]
        exact missed_eq suffix (.mark mark)

theorem label_eq :
    Descent.label ended.tokens (ended.placeOf rest) = ended.ending (readLabel rest) := by
  simp only [Descent.label, Descent.bind_apply, look_here suffix, Ending.read_andThen]
  cases rest with
  | nil => exact missed_eq suffix .name
  | cons token tail =>
      obtain ⟨lexeme, position⟩ := token
      cases lexeme with
      | name text =>
          have past := advance_eq suffix (by simp)
          by_cases plain : isVariableName text = true <;>
            simp [tokenAt, nextLexeme, past, plain, readLabel, ending]
      | _ => exact missed_eq suffix .name

/-- The rule for what a record extends reads a label and the bar after it where the reader does, and
nothing elsewhere. -/
theorem extension_eq :
    Descent.extension ended.tokens (ended.placeOf rest) =
      if startsExtension rest then
        (ended.ending (readLabel rest)).andThen fun name next => .read (some name) (next + 1)
      else .read none (ended.placeOf rest) := by
  simp only [Descent.extension, Descent.bind_apply, look_here suffix, Ending.read_andThen,
    Descent.ite_apply, Descent.pure_apply]
  cases extends_ : startsExtension rest with
  | true =>
      obtain ⟨text, position, bar, tail, rfl⟩ := startsExtension_iff.mp extends_
      have after := suffix_of_cons suffix
      have past := advance_eq after (by simp)
      simp only [look_next suffix, Ending.read_andThen, ended.label_eq suffix, tokenAt, nextLexeme,
        Lexeme.isName, if_true]
      by_cases plain : isVariableName text = true
      · simp [readLabel, plain, ending, past, placeOf_tail after]
      · simp [readLabel, plain, ending]
  | false =>
      rw [if_neg Bool.false_ne_true]
      cases rest with
      | nil => rfl
      | cons token tail =>
          obtain ⟨lexeme, position⟩ := token
          simp only [look_next suffix, Ending.read_andThen]
          cases lexeme with
          | name text =>
              have other : nextLexeme tail ≠ .bar := by
                intro next
                obtain ⟨bar, after, rfl⟩ := (nextLexeme_eq_iff (by simp)).mp next
                simp [startsExtension] at extends_
              exact (if_pos rfl).trans (if_neg other)
          | _ => rfl

end Ended
end Signature
end SignatureSearch
