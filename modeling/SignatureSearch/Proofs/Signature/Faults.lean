import SignatureSearch.Proofs.Signature.Readers
import SignatureSearch.Proofs.Signature.Scanning

/-!
# Where a signature is at fault

A reader leaves the end of the tokens that it was given, or refuses one of them or what comes after
them, and says which lexeme it found there.  So a signature that is scanned and refused is at fault
at one of its tokens, the token for its end among them; a signature that is not scanned is at fault
where the scanner stops, whatever is wrong before.
-/

namespace SignatureSearch
namespace Signature

/-- A fault tells of the lexeme that is found where it is. -/
def Fault.TellsOf : Fault → Lexeme → Prop
  | stray _, _ => False
  | expected _ found, lexeme => found = lexeme
  | invalidLabel label, lexeme => lexeme = .name label
  | argumentsRefused, lexeme => startsAtom lexeme = true

/-- A refusal is where some end of tokens begins, and tells of the lexeme there. -/
def Refusal.Within (tokens : List Token) (refusal : Refusal) : Prop :=
  ∃ rest, rest <:+ tokens ∧ refusal.position? = rest.head?.map Token.position ∧
    refusal.fault.TellsOf (nextLexeme rest)

theorem Refusal.Within.mono {tokens rest : List Token} {refusal : Refusal}
    (within : refusal.Within rest) (suffix : rest <:+ tokens) : refusal.Within tokens := by
  obtain ⟨place, inside, found⟩ := within
  exact ⟨place, inside.trans suffix, found⟩

theorem Refusal.within_expected (expectation : Expectation) (tokens : List Token) :
    (Refusal.expected expectation tokens).Within tokens :=
  ⟨tokens, List.suffix_refl tokens, by cases tokens <;> exact ⟨rfl, rfl⟩⟩

/-- A step leaves an end of the tokens that it was given, or refuses one of them or what comes after
them. -/
def StaysWithin {α : Type} {kept : List Token → Prop} (tokens : List Token)
    (reading : Except Refusal (α × Subtype kept)) : Prop :=
  match reading with
  | .error refusal => refusal.Within tokens
  | .ok (_, rest) => rest.1 <:+ tokens

namespace StaysWithin

variable {α : Type} {kept : List Token → Prop} {tokens : List Token}
  {reading : Except Refusal (α × Subtype kept)} (stays : StaysWithin tokens reading)

include stays

theorem within {refusal : Refusal} (refused : reading = .error refusal) :
    refusal.Within tokens := by
  rwa [refused] at stays

theorem suffix {value : α} {rest : Subtype kept} (read : reading = .ok (value, rest)) :
    rest.1 <:+ tokens := by
  rwa [read] at stays

end StaysWithin

/-! ## The readers -/

theorem staysWithin_readMark (mark : Lexeme) (tokens : List Token) :
    StaysWithin tokens (readMark mark tokens) := by
  cases tokens with
  | nil => exact Refusal.within_expected (.mark mark) []
  | cons token rest =>
      rw [readMark]
      split
      · exact List.suffix_cons token rest
      · exact Refusal.within_expected (.mark mark) (token :: rest)

theorem staysWithin_readLabel (tokens : List Token) : StaysWithin tokens (readLabel tokens) := by
  cases tokens with
  | nil => exact Refusal.within_expected .name []
  | cons token rest =>
      rw [readLabel]
      split
      · rename_i text named
        split
        · exact List.suffix_cons token rest
        · exact ⟨token :: rest, List.suffix_refl _, rfl, named⟩
      · exact Refusal.within_expected .name (token :: rest)

/-- What takes arguments or refuses them starts with an atom. -/
theorem startsAtom_of_readAtom {tokens rest : List Token} {type : TypeExpr}
    (yields : Yields (readAtom tokens) type rest) : startsAtom (nextLexeme tokens) = true := by
  rcases readAtom_yields_iff.mp yields with
    ⟨text, position, rfl, -⟩ | ⟨position, tail, rfl, -⟩ | ⟨position, tail, rfl, -⟩ <;> rfl

theorem applied_refused {position? : Option Nat} {head : TypeExpr} {args : List TypeExpr}
    {refusal : Refusal} (refused : applied position? head args = .error refusal) :
    refusal = { fault := .argumentsRefused, position? } := by
  unfold applied at refused
  split at refused
  · cases refused
  · split at refused <;> cases refused
    rfl

mutual

theorem staysWithin_readType (tokens : List Token) : StaysWithin tokens (readType tokens) := by
  rw [readType]
  have first := staysWithin_readApplication tokens
  split
  · rename_i refused
    exact first.within refused
  · rename_i rest _ read
    have left := first.suffix read
    have more := staysWithin_readArrows rest
    split
    · rename_i refused
      exact (more.within refused).mono left
    · rename_i read
      exact (more.suffix read).trans left
termination_by (tokens.length, 4)

theorem staysWithin_readArrows (tokens : List Token) : StaysWithin tokens (readArrows tokens) := by
  rw [readArrows.eq_def]
  split
  · rename_i position tail
    have after : tail <:+ ⟨.arrow, position⟩ :: tail := List.suffix_cons _ _
    have part := staysWithin_readApplication tail
    split
    · rename_i refused
      exact (part.within refused).mono after
    · rename_i rest _ read
      have left := (part.suffix read).trans after
      have more := staysWithin_readArrows rest
      split
      · rename_i refused
        exact (more.within refused).mono left
      · rename_i read
        exact (more.suffix read).trans left
  · exact List.suffix_refl _
termination_by (tokens.length, 0)
decreasing_by all_goals grind

theorem staysWithin_readApplication (tokens : List Token) :
    StaysWithin tokens (readApplication tokens) := by
  rw [readApplication]
  have atom := staysWithin_readAtom tokens
  split
  · rename_i refused
    exact atom.within refused
  · rename_i head rest kept read
    have left := atom.suffix read
    have arguments := staysWithin_readArguments rest
    split
    · rename_i refused
      exact (arguments.within refused).mono left
    · rename_i read'
      split
      · rename_i refused
        rw [applied_refused refused]
        exact ⟨tokens, List.suffix_refl tokens, rfl, startsAtom_of_readAtom ⟨kept, read⟩⟩
      · exact (arguments.suffix read').trans left
termination_by (tokens.length, 3)

theorem staysWithin_readArguments :
    (tokens : List Token) → StaysWithin tokens (readArguments tokens)
  | [] => by
      rw [readArguments]
      exact List.suffix_refl _
  | token :: tail => by
      rw [readArguments]
      have argument := staysWithin_readAtom (token :: tail)
      split
      · split
        · rename_i refused
          exact argument.within refused
        · rename_i rest _ read
          have left := argument.suffix read
          have more := staysWithin_readArguments rest
          split
          · rename_i refused
            exact (more.within refused).mono left
          · rename_i read
            exact (more.suffix read).trans left
      · exact List.suffix_refl _
termination_by tokens => (tokens.length, 2)

theorem staysWithin_readAtom (tokens : List Token) : StaysWithin tokens (readAtom tokens) := by
  rw [readAtom.eq_def]
  split
  · exact List.suffix_cons _ _
  · rename_i position tail
    have after : tail <:+ ⟨.openParen, position⟩ :: tail := List.suffix_cons _ _
    have group := staysWithin_readGroup tail
    split
    · rename_i refused
      exact (group.within refused).mono after
    · rename_i read
      exact (group.suffix read).trans after
  · rename_i position tail
    have after : tail <:+ ⟨.openBrace, position⟩ :: tail := List.suffix_cons _ _
    have record := staysWithin_readRecord tail
    split
    · rename_i refused
      exact (record.within refused).mono after
    · rename_i read
      exact (record.suffix read).trans after
  · exact Refusal.within_expected .type _
termination_by (tokens.length, 1)

theorem staysWithin_readGroup (tokens : List Token) : StaysWithin tokens (readGroup tokens) := by
  rw [readGroup.eq_def]
  split
  · exact List.suffix_cons _ _
  · have first := staysWithin_readType tokens
    split
    · rename_i refused
      exact first.within refused
    · rename_i rest _ read
      have left := first.suffix read
      have elements := staysWithin_readElements rest
      split
      · rename_i refused
        exact (elements.within refused).mono left
      · rename_i last _ read
        have after := (elements.suffix read).trans left
        have close := staysWithin_readMark .closeParen last
        split
        · rename_i refused
          exact (close.within refused).mono after
        · rename_i read
          exact (close.suffix read).trans after
termination_by (tokens.length, 5)

theorem staysWithin_readElements (tokens : List Token) :
    StaysWithin tokens (readElements tokens) := by
  rw [readElements.eq_def]
  split
  · rename_i position tail
    have after : tail <:+ ⟨.comma, position⟩ :: tail := List.suffix_cons _ _
    have element := staysWithin_readType tail
    split
    · rename_i refused
      exact (element.within refused).mono after
    · rename_i rest _ read
      have left := (element.suffix read).trans after
      have more := staysWithin_readElements rest
      split
      · rename_i refused
        exact (more.within refused).mono left
      · rename_i read
        exact (more.suffix read).trans left
  · exact List.suffix_refl _
termination_by (tokens.length, 0)
decreasing_by all_goals grind

theorem staysWithin_readRecord (tokens : List Token) : StaysWithin tokens (readRecord tokens) := by
  rw [readRecord.eq_def]
  split
  · exact List.suffix_cons _ _
  · split
    · have label := staysWithin_readLabel tokens
      split
      · rename_i refused
        exact label.within refused
      · rename_i rest _ read
        have after := (List.tail_suffix rest).trans (label.suffix read)
        have fields := staysWithin_readFields rest.tail
        split
        · rename_i refused
          exact (fields.within refused).mono after
        · rename_i read
          exact (fields.suffix read).trans after
    · have fields := staysWithin_readFields tokens
      split
      · rename_i refused
        exact fields.within refused
      · rename_i read
        exact fields.suffix read
termination_by (tokens.length, 7)

theorem staysWithin_readFields (tokens : List Token) : StaysWithin tokens (readFields tokens) := by
  rw [readFields]
  have first := staysWithin_readField tokens
  split
  · rename_i refused
    exact first.within refused
  · rename_i rest _ read
    have left := first.suffix read
    have more := staysWithin_readMoreFields rest
    split
    · rename_i refused
      exact (more.within refused).mono left
    · rename_i last _ read
      have after := (more.suffix read).trans left
      have close := staysWithin_readMark .closeBrace last
      split
      · rename_i refused
        exact (close.within refused).mono after
      · rename_i read
        exact (close.suffix read).trans after
termination_by (tokens.length, 6)

theorem staysWithin_readMoreFields (tokens : List Token) :
    StaysWithin tokens (readMoreFields tokens) := by
  rw [readMoreFields.eq_def]
  split
  · rename_i position tail
    have after : tail <:+ ⟨.comma, position⟩ :: tail := List.suffix_cons _ _
    have field := staysWithin_readField tail
    split
    · rename_i refused
      exact (field.within refused).mono after
    · rename_i rest _ read
      have left := (field.suffix read).trans after
      have more := staysWithin_readMoreFields rest
      split
      · rename_i refused
        exact (more.within refused).mono left
      · rename_i read
        exact (more.suffix read).trans left
  · exact List.suffix_refl _
termination_by (tokens.length, 0)
decreasing_by all_goals grind

theorem staysWithin_readField (tokens : List Token) : StaysWithin tokens (readField tokens) := by
  rw [readField]
  have label := staysWithin_readLabel tokens
  split
  · rename_i refused
    exact label.within refused
  · rename_i rest _ read
    have left := label.suffix read
    have colon := staysWithin_readMark .colon rest
    split
    · rename_i refused
      exact (colon.within refused).mono left
    · rename_i rest _ read
      have after := (colon.suffix read).trans left
      have type := staysWithin_readType rest
      split
      · rename_i refused
        exact (type.within refused).mono after
      · rename_i read
        exact (type.suffix read).trans after
termination_by (tokens.length, 5)

end

/-- A refusal of all the tokens is within them. -/
theorem within_of_ofTokens {tokens : List Token} {refusal : Refusal}
    (refused : ofTokens tokens = .error refusal) : refusal.Within tokens := by
  have stays := staysWithin_readType tokens
  unfold ofTokens at refused
  split at refused
  · rename_i inner
    cases refused
    exact stays.within inner
  · cases refused
  · rename_i token rest _ read
    cases refused
    exact (Refusal.within_expected .finish (token :: rest)).mono (stays.suffix read)

/-! ## The tokens of a signature -/

/-- A lexeme is placed inside the text in which it is written. -/
theorem position_lt_of_mem_placed {words : List Spaced} {start : Nat} {token : Token}
    (member : token ∈ placed start words) (last : List Char) :
    token.lexeme.IsWritten ∧ token.position < start + (spread words last).length := by
  induction words generalizing start with
  | nil => cases member
  | cons word words ih =>
      obtain ⟨c, run, shape, -⟩ := word.written.begins
      have long := congrArg List.length shape
      rw [String.length_toList, List.length_cons] at long
      rw [spread_cons, List.length_append, List.length_append, String.length_toList]
      rcases List.mem_cons.mp member with rfl | later
      · refine ⟨word.written, ?_⟩
        dsimp only
        omega
      · obtain ⟨written, before⟩ := ih later
        exact ⟨written, by omega⟩

/-- The end is the only token that stands after all the text. -/
theorem position_eq_length_iff {signature : String} {tokens : List Token}
    (scanned : Token.tokenize signature = .ok tokens) {token : Token} (member : token ∈ tokens) :
    token.position ≤ signature.length ∧
      (token.position = signature.length ↔ token.lexeme = .finish) := by
  obtain ⟨layout, rfl, rfl⟩ := exists_layout_of_tokenize scanned
  have whole : layout.text.length = (spread layout.words layout.last).length := by
    rw [Layout.text, String.length_ofList]
  rcases List.mem_append.mp member with inner | finish
  · obtain ⟨written, before⟩ := position_lt_of_mem_placed inner layout.last
    rw [Nat.zero_add, ← whole] at before
    refine ⟨Nat.le_of_lt before, iff_of_false (Nat.ne_of_lt before) ?_⟩
    intro finish
    rw [finish] at written
    exact written
  · obtain rfl := List.mem_singleton.mp finish
    exact ⟨Nat.le_refl _, iff_of_true rfl rfl⟩

/-- A signature that is scanned and refused is at fault at one of its tokens. -/
theorem exists_token_of_refused {signature : String} {tokens : List Token} {error : SyntaxError}
    (scanned : Token.tokenize signature = .ok tokens) (refused : parse? signature = .error error) :
    ∃ token ∈ tokens, error.position = token.position ∧ error.fault.TellsOf token.lexeme := by
  rw [Token.tokenize] at scanned
  unfold parse? at refused
  cases inner : Token.scan signature with
  | error stray =>
      rw [inner] at scanned
      cases scanned
  | ok scannedTokens =>
      rw [inner] at scanned refused
      cases scanned
      dsimp only at refused
      split at refused
      · cases refused
      · rename_i refusal read
        cases refused
        obtain ⟨rest, suffix, place, tells⟩ := within_of_ofTokens read
        cases rest with
        | nil =>
            refine ⟨⟨.finish, signature.length⟩, by simp, ?_, tells⟩
            rw [place]
            rfl
        | cons token rest =>
            have inside : token ∈ scannedTokens := suffix.subset List.mem_cons_self
            refine ⟨token, List.mem_append_left _ inside, ?_, tells⟩
            rw [place]
            rfl

/-- A signature that is not scanned is at fault where the scanner stops. -/
theorem error_of_stray {signature : String} {stray : StrayCharacter}
    (failed : Token.tokenize signature = .error stray) :
    parse? signature =
      .error { fault := .stray stray.character, position := stray.position, signature } := by
  unfold parse?
  rw [scan_eq_of_tokenize failed]

/-- **A fault is inside the signature.**  A signature that cannot be scanned is at fault at the one
place at which reading it from the left does not go on.  Any other signature that is refused is at
fault at one of its tokens, of which the error tells, and after all the text only where that is the
token for the end. -/
theorem refused_inside {signature : String} {error : SyntaxError}
    (refused : parse? signature = .error error) :
    error.position ≤ signature.length ∧
      (∀ stray, Token.tokenize signature = .error stray →
        error.fault = .stray stray.character ∧
          ∀ place, StopsAt signature.toList place ↔ place = error.position) ∧
      ∀ tokens, Token.tokenize signature = .ok tokens →
        (∀ place, ¬ StopsAt signature.toList place) ∧
          ∃ token ∈ tokens, error.position = token.position ∧
            error.fault.TellsOf token.lexeme ∧
            (error.position = signature.length ↔ token.lexeme = .finish) := by
  refine ⟨?_, ?_, ?_⟩
  · cases scanned : Token.tokenize signature with
    | error stray =>
        rw [error_of_stray scanned] at refused
        cases refused
        have stops := (stopsAt_iff_of_stray scanned).mpr rfl
        have inside := stops.inside
        rw [String.length_toList] at inside
        exact Nat.le_of_lt inside
    | ok tokens =>
        obtain ⟨token, member, place, -⟩ := exists_token_of_refused scanned refused
        rw [place]
        exact (position_eq_length_iff scanned member).1
  · intro stray failed
    rw [error_of_stray failed] at refused
    cases refused
    exact ⟨rfl, fun place => stopsAt_iff_of_stray failed⟩
  · intro tokens scanned
    obtain ⟨token, member, place, tells⟩ := exists_token_of_refused scanned refused
    refine ⟨not_stopsAt_of_tokenize scanned, token, member, place, tells, ?_⟩
    rw [place]
    exact (position_eq_length_iff scanned member).2

/-- A stray character is the fault though a parenthesis is closed before it that was not opened; and
an argument of a variable is refused where the variable stands. -/
theorem refused_inside_later_stray :
    parse? ") a $" = .error ⟨.stray '$', 4, ") a $"⟩ ∧
      (∀ place, StopsAt ") a $".toList place ↔ place = 4) ∧
      parse? "f -> m a" = .error ⟨.argumentsRefused, 5, "f -> m a"⟩ ∧
      ∃ tokens, Token.tokenize "f -> m a" = .ok tokens ∧
        ∃ token ∈ tokens, 5 = token.position ∧ startsAtom token.lexeme = true ∧
          token.lexeme ≠ .finish := by
  have stray : Token.tokenize ") a $" = .error ⟨'$', 4⟩ := by decide +kernel
  have found : Token.scan "f -> m a" =
      .ok [⟨.name "f", 0⟩, ⟨.arrow, 2⟩, ⟨.name "m", 5⟩, ⟨.name "a", 7⟩] := by decide +kernel
  have refused : parse? "f -> m a" = .error ⟨.argumentsRefused, 5, "f -> m a"⟩ := by
    simp [parse?, found, ofTokens, readType, readArrows, readApplication, readArguments, readAtom,
      startsAtom, applied, constructor?, ofName, isVariableName]
  have scanned : Token.tokenize "f -> m a" =
      .ok [⟨.name "f", 0⟩, ⟨.arrow, 2⟩, ⟨.name "m", 5⟩, ⟨.name "a", 7⟩, ⟨.finish, 8⟩] := by
    decide +kernel
  obtain ⟨-, token, member, place, tells, last⟩ := (refused_inside refused).2.2 _ scanned
  refine ⟨error_of_stray stray, ((refused_inside (error_of_stray stray)).2.1 _ stray).2, refused, _,
    scanned, token, member, place, tells, fun finish => ?_⟩
  exact absurd (last.mpr finish) (by decide)

end Signature
end SignatureSearch
