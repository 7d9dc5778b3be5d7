import SignatureSearch.Proofs.Signature.Descent
import SignatureSearch.Proofs.Signature.Turns

/-!
# The descent comes to an end

At every place of a list of tokens with an end after them, and with four calls for each token from
there on, every rule ends as the reader of these tokens does.  So it goes on past the place when it
reads something, though not past the end, it looks at no place outside the list, and it has calls
left.  A scanner that is given a turn for each character and a descent that is given four calls then
settle every text, whatever is wrong with it.
-/

namespace SignatureSearch
namespace Signature
namespace Ended

variable (ended : Ended)

/-- A rule ends as a reader does wherever one of the ends of some tokens begins. -/
def Follows {α : Type} (rule : Descent α) (read : (tokens : List Token) → Reading α tokens)
    (whole : List Token) : Prop :=
  ∀ rest, rest <:+ whole → rule ended.tokens (ended.placeOf rest) = ended.ending (read rest)

/-! ## Loops -/

/-- One turn of a loop at the last of the tokens before the end: either it does not go on and the
reader of the repetition reads nothing there, or it goes on to an item, and the reader reads what
the reader of the items reads and repeats itself after it. -/
def LoopsAt {α : Type} (goes : Descent Bool) (item : Descent α)
    (read : (tokens : List Token) → Reading α tokens)
    (again : (tokens : List Token) → Repetition α tokens) (rest : List Token) : Prop :=
  goes ended.tokens (ended.placeOf rest) = .read false (ended.placeOf rest) ∧
      Yields (again rest) [] rest ∨
    ∃ start, start <:+ rest ∧
      goes ended.tokens (ended.placeOf rest) = .read true (ended.placeOf start) ∧
      item ended.tokens (ended.placeOf start) = ended.ending (read start) ∧
      (∀ refusal, read start = .error refusal → again rest = .error refusal) ∧
      ∀ first left, read start = .ok (first, left) →
        ended.ending (again rest) =
          (ended.ending (again left.1)).andThen fun more next => .read (first :: more) next

section

variable {ended} {α : Type} {item : Descent α} {read : (tokens : List Token) → Reading α tokens}
  {again : (tokens : List Token) → Repetition α tokens} {whole : List Token}

/-- With more turns than tokens a loop ends as the reader of the repetition does. -/
theorem repeated_eq {goes : Descent Bool} (within : ∀ tokens, StaysWithin tokens (read tokens))
    (loops : ∀ rest, rest <:+ whole → ended.LoopsAt goes item read again rest) {rest : List Token}
    (inside : rest <:+ whole) (turns : Nat) (enough : rest.length < turns) :
    Descent.repeated goes item turns ended.tokens (ended.placeOf rest) =
      ended.ending (again rest) := by
  induction turns generalizing rest with
  | zero => omega
  | succ turns ih =>
      rcases loops rest inside with
        ⟨stops, _, nothing⟩ | ⟨start, suffix, goesOn, follows, refuses, reads⟩
      · simp [Descent.repeated, stops, nothing, ending]
      · simp only [Descent.repeated, Descent.bind_apply, goesOn, Ending.read_andThen, if_true,
          follows]
        cases found : read start with
        | error refusal =>
            rw [refuses refusal found]
            rfl
        | ok taken =>
            obtain ⟨first, left⟩ := taken
            have after := ((within start).suffix found).trans (suffix.trans inside)
            have fewer := left.2
            have before := suffix.length_le
            have later := ih after (by omega)
            rw [reads first left found]
            simp [ending, later]

/-- A loop that goes on at a mark ends as the reader does that repeats itself after the mark. -/
theorem repeated_accept_eq {mark : Lexeme} (repeats : Repeats mark read again)
    (inner : mark ≠ .finish) (within : ∀ tokens, StaysWithin tokens (read tokens))
    (suffix : whole <:+ ended.inner) (follows : ended.Follows item read whole)
    (turns : Nat) (enough : whole.length < turns) :
    Descent.repeated (Descent.accept mark) item turns ended.tokens (ended.placeOf whole) =
      ended.ending (again whole) := by
  refine repeated_eq within (fun rest inside => ?_) (List.suffix_refl whole) turns enough
  by_cases next : nextLexeme rest = mark
  · obtain ⟨position, tail, rfl⟩ := (nextLexeme_eq_iff inner).mp next
    have shorter := List.suffix_cons (Token.mk mark position) tail
    refine .inr ⟨tail, shorter, accept_eq (inside.trans suffix),
      follows tail (shorter.trans inside), fun refusal found => ?_, fun first left found => ?_⟩
    · rw [repeats.goes, found]
    · obtain ⟨middle, fewer⟩ := left
      rw [repeats.goes, found]
      dsimp only
      cases again middle <;> rfl
  · exact .inl ⟨accept_other (inside.trans suffix) next, _, repeats.stops rest next⟩

/-- The loop over the arguments of a head ends as their reader does. -/
theorem repeated_atAtom_eq {item : Descent TypeExpr} (suffix : whole <:+ ended.inner)
    (follows : ended.Follows item readAtom whole) (turns : Nat) (enough : whole.length < turns) :
    Descent.repeated Descent.atAtom item turns ended.tokens (ended.placeOf whole) =
      ended.ending (readArguments whole) := by
  refine repeated_eq staysWithin_readAtom (fun rest inside => ?_) (List.suffix_refl whole) turns
    enough
  have here := atAtom_eq (inside.trans suffix)
  cases rest with
  | nil => exact .inl ⟨here, _, by rw [readArguments]⟩
  | cons token tail =>
      rw [nextLexeme] at here
      by_cases starts : startsAtom token.lexeme = true
      · rw [starts] at here
        refine .inr ⟨_, List.suffix_refl _, here, follows _ inside, fun refusal found => ?_,
          fun first left found => ?_⟩
        · rw [readArguments, if_pos starts, found]
        · obtain ⟨middle, fewer⟩ := left
          rw [readArguments, if_pos starts, found]
          dsimp only
          cases readArguments middle <;> rfl
      · rw [Bool.eq_false_iff.mpr starts] at here
        exact .inl ⟨here, _, by rw [readArguments, if_neg starts]⟩

end

/-! ## Rules -/

/-- A rule that goes on after another one ends as a reader does that goes on after another one: it
is refused where the first reader is, and otherwise goes on at what that one leaves. -/
theorem bind_eq {α β : Type} {kept keptAll : List Token → Prop} {rule : Descent α}
    {next : α → Descent β} {rest : List Token} {reading : Except Refusal (α × Subtype kept)}
    {whole : Except Refusal (β × Subtype keptAll)}
    (reads : rule ended.tokens (ended.placeOf rest) = ended.ending reading)
    (stays : StaysWithin rest reading)
    (refuses : ∀ refusal, reading = .error refusal → whole = .error refusal)
    (follows : ∀ value left fewer, left <:+ rest → reading = .ok (value, ⟨left, fewer⟩) →
      next value ended.tokens (ended.placeOf left) = ended.ending whole) :
    (rule >>= next) ended.tokens (ended.placeOf rest) = ended.ending whole := by
  rw [Descent.bind_apply, reads]
  cases found : reading with
  | error refusal =>
      rw [refuses refusal found]
      rfl
  | ok taken =>
      obtain ⟨value, left, fewer⟩ := taken
      exact follows value left fewer (stays.suffix found) found

/-- The fields of a record are read as their reader reads them. -/
theorem fields_eq {field : Descent (String × TypeExpr)} {rest : List Token}
    (suffix : rest <:+ ended.inner) (follows : ended.Follows field readField rest) (turns : Nat)
    (enough : rest.length ≤ turns) :
    Descent.fields field turns ended.tokens (ended.placeOf rest) =
      ended.ending (readFields rest) := by
  have first := follows rest (List.suffix_refl rest)
  rw [Descent.fields, readFields]
  refine ended.bind_eq first (staysWithin_readField rest) (fun _ found => by rw [found])
    fun first left fewer inside found => ?_
  simp only [found]
  have after := inside.trans suffix
  have more := repeated_accept_eq repeats_readMoreFields (by simp) staysWithin_readField after
    (fun tail shorter => follows tail (shorter.trans inside)) turns
    (Nat.lt_of_lt_of_le fewer enough)
  refine ended.bind_eq more (staysWithin_readMoreFields left) (fun _ found => by rw [found])
    fun more last kept inside found => ?_
  simp only [found]
  have final := ended.expect_eq (inside.trans after) .closeBrace (by simp)
  refine ended.bind_eq final (staysWithin_readMark .closeBrace last)
    (fun _ found => by rw [found]) fun _ _ _ _ found => ?_
  simp only [found]
  rfl

-- The induction is on the calls.  A rule that calls another one at the same place asks for one call
-- more than that one does, and past a token it has four calls more to give.
mutual

theorem type_follows {whole : List Token} (suffix : whole <:+ ended.inner) :
    (calls : Nat) → 4 * whole.length + 3 ≤ calls →
      ended.Follows (Descent.type calls) readType whole
  | 0, enough => by omega
  | calls + 1, enough => by
      intro rest inside
      have fits := inside.length_le
      have here := inside.trans suffix
      have first := application_follows here calls (by omega) rest (List.suffix_refl rest)
      rw [Descent.type, readType]
      refine ended.bind_eq first (staysWithin_readApplication rest) (fun _ found => by rw [found])
        fun first left fewer inside found => ?_
      simp only [found]
      have after := inside.trans here
      have arrows := repeated_accept_eq repeats_readArrows (by simp) staysWithin_readApplication
        after (application_follows after calls (by omega)) calls (by omega)
      refine ended.bind_eq arrows (staysWithin_readArrows left) (fun _ found => by rw [found])
        fun _ _ _ _ found => ?_
      simp only [found]
      rfl

theorem application_follows {whole : List Token} (suffix : whole <:+ ended.inner) :
    (calls : Nat) → 4 * whole.length + 2 ≤ calls →
      ended.Follows (Descent.application calls) readApplication whole
  | 0, enough => by omega
  | calls + 1, enough => by
      intro rest inside
      have fits := inside.length_le
      have here := inside.trans suffix
      have head := atom_follows here calls (by omega) rest (List.suffix_refl rest)
      rw [Descent.application, readApplication, Descent.bind_apply, look_here here,
        Ending.read_andThen]
      refine ended.bind_eq head (staysWithin_readAtom rest) (fun _ found => by rw [found])
        fun head left fewer inside found => ?_
      simp only [found]
      have after := inside.trans here
      have arguments := repeated_atAtom_eq after (atom_follows after calls (by omega)) calls
        (by omega)
      refine ended.bind_eq arguments (staysWithin_readArguments left)
        (fun _ found => by rw [found]) fun args final kept _ found => ?_
      simp only [found]
      exact ended.apply_eq fewer kept head args

theorem atom_follows {whole : List Token} (suffix : whole <:+ ended.inner) :
    (calls : Nat) → 4 * whole.length + 1 ≤ calls →
      ended.Follows (Descent.atom calls) readAtom whole
  | 0, enough => by omega
  | calls + 1, enough => by
      intro rest inside
      have fits := inside.length_le
      have here := inside.trans suffix
      rw [Descent.atom, Descent.bind_apply, look_here here, Ending.read_andThen]
      cases rest with
      | nil =>
          rw [readAtom]
          · exact missed_eq here .type
          all_goals simp
      | cons token tail =>
          obtain ⟨lexeme, position⟩ := token
          have after := suffix_of_cons here
          rw [List.length_cons] at fits
          cases lexeme with
          | name text =>
              have past := advance_eq here (by simp)
              simp [tokenAt, nextLexeme, past, readAtom, ending]
          | openParen =>
              have past := advance_eq here (by simp)
              have inner := group_follows after calls (by omega) tail (List.suffix_refl tail)
              simp only [tokenAt, nextLexeme, Descent.bind_apply, past, Ending.read_andThen, inner]
              rw [readAtom]
              cases readGroup tail <;> rfl
          | openBrace =>
              have past := advance_eq here (by simp)
              have inner := record_follows after calls (by omega) tail (List.suffix_refl tail)
              simp only [tokenAt, nextLexeme, Descent.bind_apply, past, Ending.read_andThen, inner]
              rw [readAtom]
              cases readRecord tail <;> rfl
          | _ =>
              rw [readAtom]
              · exact missed_eq here .type
              all_goals simp

theorem group_follows {whole : List Token} (suffix : whole <:+ ended.inner) :
    (calls : Nat) → 4 * whole.length + 4 ≤ calls →
      ended.Follows (Descent.group calls) readGroup whole
  | 0, enough => by omega
  | calls + 1, enough => by
      intro rest inside
      have fits := inside.length_le
      have here := inside.trans suffix
      rw [Descent.group, Descent.bind_apply]
      by_cases next : nextLexeme rest = .closeParen
      · obtain ⟨position, tail, rfl⟩ := (nextLexeme_eq_iff (by simp)).mp next
        rw [accept_eq here, readGroup]
        rfl
      have filled : ∀ position tail, rest = ⟨.closeParen, position⟩ :: tail → False := by
        rintro position tail rfl
        exact next rfl
      have first := type_follows here calls (by omega) rest (List.suffix_refl rest)
      rw [accept_other here next, Ending.read_andThen, Descent.ite_apply,
        if_neg Bool.false_ne_true, readGroup.eq_2 rest filled]
      refine ended.bind_eq first (staysWithin_readType rest) (fun _ found => by rw [found])
        fun first left fewer inside found => ?_
      simp only [found]
      have after := inside.trans here
      have elements := repeated_accept_eq repeats_readElements (by simp) staysWithin_readType
        after (type_follows after calls (by omega)) calls (by omega)
      refine ended.bind_eq elements (staysWithin_readElements left) (fun _ found => by rw [found])
        fun more last kept inside found => ?_
      simp only [found]
      have final := ended.expect_eq (inside.trans after) .closeParen (by simp)
      refine ended.bind_eq final (staysWithin_readMark .closeParen last)
        (fun _ found => by rw [found]) fun _ _ _ _ found => ?_
      simp only [found]
      rfl

theorem record_follows {whole : List Token} (suffix : whole <:+ ended.inner) :
    (calls : Nat) → 4 * whole.length + 4 ≤ calls →
      ended.Follows (Descent.record calls) readRecord whole
  | 0, enough => by omega
  | calls + 1, enough => by
      intro rest inside
      have fits := inside.length_le
      have here := inside.trans suffix
      rw [Descent.record, Descent.bind_apply]
      by_cases next : nextLexeme rest = .closeBrace
      · obtain ⟨position, tail, rfl⟩ := (nextLexeme_eq_iff (by simp)).mp next
        rw [accept_eq here, readRecord]
        rfl
      have filled : ∀ position tail, rest = ⟨.closeBrace, position⟩ :: tail → False := by
        rintro position tail rfl
        exact next rfl
      rw [accept_other here next, Ending.read_andThen, Descent.ite_apply,
        if_neg Bool.false_ne_true, Descent.bind_apply, ended.extension_eq here,
        readRecord.eq_2 rest filled]
      cases extends_ : startsExtension rest with
      | false =>
          have listed := ended.fields_eq here (field_follows here calls (by omega)) calls
            (by omega)
          simp only [Bool.false_eq_true, if_false, Ending.read_andThen, Descent.bind_apply, listed]
          cases readFields rest <;> rfl
      | true =>
          obtain ⟨text, position, bar, tail, rfl⟩ := startsExtension_iff.mp extends_
          have bars := suffix_of_cons here
          have after := suffix_of_cons bars
          simp only [List.length_cons] at fits
          have listed := ended.fields_eq after (field_follows after calls (by omega)) calls
            (by omega)
          by_cases plain : isVariableName text = true
          · simp only [readLabel, plain, if_true, ending, Ending.read_andThen, placeOf_tail bars,
              Descent.bind_apply, listed, List.tail_cons]
            cases readFields tail <;> rfl
          · simp [readLabel, plain, ending]

theorem field_follows {whole : List Token} (suffix : whole <:+ ended.inner) :
    (calls : Nat) → 4 * whole.length + 3 ≤ calls →
      ended.Follows (Descent.field calls) readField whole
  | 0, enough => by omega
  | calls + 1, enough => by
      intro rest inside
      have fits := inside.length_le
      have here := inside.trans suffix
      rw [Descent.field, readField]
      refine ended.bind_eq (ended.label_eq here) (staysWithin_readLabel rest)
        (fun _ found => by rw [found]) fun name left fewer inside found => ?_
      simp only [found]
      have after := inside.trans here
      have colon := ended.expect_eq after .colon (by simp)
      refine ended.bind_eq colon (staysWithin_readMark .colon left)
        (fun _ found => by rw [found]) fun _ last kept inside found => ?_
      simp only [found]
      have final := inside.trans after
      have inner := type_follows final calls (by omega) last (List.suffix_refl last)
      refine ended.bind_eq inner (staysWithin_readType last) (fun _ found => by rw [found])
        fun _ _ _ _ found => ?_
      simp only [found]
      rfl

end

end Ended

/-! ## Progress -/

/-- An ending is in order at a place of some tokens: the rule has gone on past the place and has not
gone past the last token, or it refuses a token from the place on and tells of the lexeme there.  It
has not looked outside the tokens, and it has not spent all of its calls. -/
def Ending.InOrder {α : Type} (tokens : List Token) (place : Nat) : Ending α → Prop
  | read _ next => place < next ∧ next < tokens.length
  | refused fault position =>
      ∃ token ∈ tokens.drop place, token.position = position ∧ fault.TellsOf token.lexeme
  | outside | unfinished => False

/-- At every place of some tokens, with four calls for each token from there on, the end among them,
a rule ends in order and as a reader does that is given the tokens from there to the end. -/
def Descent.Progresses {α : Type} (rule : Nat → Descent α)
    (read : (tokens : List Token) → Reading α tokens) : Prop :=
  ∀ (ended : Ended) (place calls : Nat), place ≤ ended.inner.length →
    4 * (ended.tokens.length - place) ≤ calls →
      (rule calls ended.tokens place).InOrder ended.tokens place ∧
        rule calls ended.tokens place = ended.ending (read (ended.inner.drop place))

namespace Ended

variable {ended : Ended}

theorem inOrder_ending {α : Type} {rest : List Token} (suffix : rest <:+ ended.inner)
    {reading : Reading α rest} (stays : StaysWithin rest reading) :
    (ended.ending reading).InOrder ended.tokens (ended.placeOf rest) := by
  have fits := suffix.length_le
  cases reading with
  | error refusal =>
      obtain ⟨refusedAt, inside, position, tells⟩ := stays
      have here := getElem?_placeOf (inside.trans suffix)
      have shorter := inside.length_le
      have later :
          ended.placeOf refusedAt = ended.placeOf rest + (rest.length - refusedAt.length) := by
        rw [placeOf, placeOf]
        omega
      refine ⟨ended.tokenAt refusedAt, ?_, by rw [position]; rfl, tells⟩
      rw [later] at here
      exact List.mem_of_getElem? (List.getElem?_drop.trans here)
  | ok taken =>
      obtain ⟨value, left, fewer⟩ := taken
      simp only [ending, Ending.InOrder, tokens, placeOf, List.length_append, List.length_singleton]
      omega

theorem progresses_of_follows {α : Type} {rule : Nat → Descent α}
    {read : (tokens : List Token) → Reading α tokens}
    (within : ∀ tokens, StaysWithin tokens (read tokens))
    (follows : ∀ (ended : Ended) (rest : List Token), rest <:+ ended.inner → ∀ calls,
      4 * rest.length + 4 ≤ calls → ended.Follows (rule calls) read rest) :
    Descent.Progresses rule read := by
  intro ended place calls inside enough
  have suffix := List.drop_suffix place ended.inner
  have left := List.length_drop (i := place) (l := ended.inner)
  have here : ended.placeOf (ended.inner.drop place) = place := by
    rw [placeOf, left]
    omega
  rw [tokens, List.length_append, List.length_singleton] at enough
  have ends := follows ended _ suffix calls (by omega) _ (List.suffix_refl _)
  have order := inOrder_ending suffix (within (ended.inner.drop place))
  rw [here] at ends order
  exact ⟨ends ▸ order, ends⟩

end Ended

/-! ## Whole signatures -/

/-- A type with the end after it. -/
def Descent.whole (calls : Nat) : Descent TypeExpr := do
  let type ← type calls
  let token ← look 0
  if token.lexeme = .finish then
    advance
    return type
  else
    missed .finish

/-- The type that a signature writes, if no more than a number of turns are taken to scan it and no
more than a number of nested calls to read it. -/
def parseWithin (calls : Nat) (signature : String) : Option (Except SyntaxError TypeExpr) :=
  match Token.tokenizeWithin calls signature with
  | none => none
  | some (.error stray) =>
      some (.error { fault := .stray stray.character, position := stray.position, signature })
  | some (.ok tokens) =>
      match Descent.whole calls tokens 0 with
      | .read type _ => some (.ok type)
      | .refused fault position => some (.error { fault, position, signature })
      | .outside | .unfinished => none

/-- With enough calls the descent reads what all of the tokens write, up to the only end. -/
theorem Ended.whole_eq (ended : Ended) (only : ∀ token ∈ ended.inner, token.lexeme ≠ .finish)
    (calls : Nat) (enough : 4 * ended.inner.length + 3 ≤ calls) :
    Descent.whole calls ended.tokens 0 =
      match ofTokens ended.inner with
      | .ok type => .read type ended.inner.length
      | .error refusal => .refused refusal.fault (refusal.position?.getD ended.last) := by
  have here := List.suffix_refl ended.inner
  have start : ended.placeOf ended.inner = 0 := Nat.sub_self _
  have type := ended.type_follows here calls enough ended.inner here
  have stays := staysWithin_readType ended.inner
  rw [start] at type
  rw [Descent.whole, ofTokens, Descent.bind_apply, type]
  cases found : readType ended.inner with
  | error refusal => rfl
  | ok taken =>
      obtain ⟨type, left, fewer⟩ := taken
      have inside : left <:+ ended.inner := stays.suffix found
      simp only [ending, Ending.read_andThen, Descent.bind_apply, look_here inside]
      cases left with
      | nil =>
          have finished : (ended.tokenAt []).lexeme = .finish := rfl
          rw [Descent.ite_apply, if_pos finished, Descent.bind_apply, advance_last]
          rfl
      | cons token rest =>
          have further : (ended.tokenAt (token :: rest)).lexeme ≠ .finish :=
            only token (inside.subset List.mem_cons_self)
          rw [Descent.ite_apply, if_neg further]
          exact missed_eq inside .finish

/-- The tokens that are scanned are no more than the characters, and none of them is an end. -/
theorem inner_of_scanFrom {position : Nat} {text : List Char} {tokens : List Token}
    (scanned : Token.scanFrom position text = .ok tokens) :
    tokens.length ≤ text.length ∧ ∀ token ∈ tokens, token.lexeme ≠ .finish := by
  fun_induction Token.scanFrom position text generalizing tokens with
  | case1 =>
      cases scanned
      exact ⟨Nat.le_refl _, fun token member => absurd member List.not_mem_nil⟩
  | case2 position c rest blank ih => exact (ih scanned).imp_left Nat.le_succ_of_le
  | case3 => cases scanned
  | case4 => cases scanned
  | case5 position c rest _ lexeme after found tokens inner ih =>
      cases scanned
      obtain ⟨fits, others⟩ := ih inner
      have shorter := Lexeme.first?_length_lt found
      refine ⟨?_, List.forall_mem_cons.mpr ⟨?_, others⟩⟩
      · rw [List.length_cons]
        omega
      · rintro rfl
        exact (written_of_first? found).1

theorem parseWithin_eq {signature : String} {calls : Nat}
    (enough : 4 * (signature.length + 1) ≤ calls) :
    parseWithin calls signature = some (parse? signature) := by
  rw [parseWithin, Token.tokenizeWithin_eq (by omega), Token.tokenize, parse?]
  cases scanned : Token.scan signature with
  | error stray => rfl
  | ok inner =>
      obtain ⟨fits, only⟩ := inner_of_scanFrom scanned
      rw [String.length_toList] at fits
      have reads := Ended.whole_eq ⟨inner, signature.length⟩ only calls (by dsimp only; omega)
      rw [Ended.tokens] at reads
      dsimp only at reads ⊢
      rw [reads]
      cases ofTokens inner <;> rfl

/-- What the descent writes with calls enough for the text is what the signature writes. -/
theorem parse?_eq_of_parseWithin {signature : String} {result : Except SyntaxError TypeExpr}
    (within : parseWithin (4 * (signature.length + 1)) signature = some result) :
    parse? signature = result :=
  Option.some.inj ((parseWithin_eq (Nat.le_refl _)).symm.trans within)

/-- **Reading comes to an end.**  Every turn of the scanner that is not its last leads to a later
place of the text.  At every place of tokens with an end after them every rule of the grammar, with
four calls for each token that is left, either goes on past the place and not past the end, or
refuses one of the tokens from the place on; it does not look outside the tokens and has calls left,
and it ends as the reader does.  So a turn for each character and one for the end settle what the
tokens of a signature are, and four calls for each of them what it writes, for every text. -/
theorem descent_progresses :
    (∀ (text : List Char) (place next : Nat),
        (Token.Turn.take text place).next? = some next → place < next ∧ next ≤ text.length) ∧
      (Descent.Progresses Descent.type readType ∧
        Descent.Progresses Descent.application readApplication ∧
        Descent.Progresses Descent.atom readAtom ∧ Descent.Progresses Descent.group readGroup ∧
        Descent.Progresses Descent.record readRecord ∧
        Descent.Progresses Descent.field readField) ∧
      (∀ (signature : String) (turns : Nat), signature.length < turns →
        Token.tokenizeWithin turns signature = some (Token.tokenize signature)) ∧
      ∀ (signature : String) (calls : Nat), 4 * (signature.length + 1) ≤ calls →
        parseWithin calls signature = some (parse? signature) := by
  refine ⟨fun text place next moved => Token.Turn.advances moved, ⟨?_, ?_, ?_, ?_, ?_, ?_⟩,
    fun signature turns enough => Token.tokenizeWithin_eq enough,
    fun signature calls enough => parseWithin_eq enough⟩
  · exact Ended.progresses_of_follows staysWithin_readType fun ended rest suffix calls enough =>
      ended.type_follows suffix calls (by omega)
  · exact Ended.progresses_of_follows staysWithin_readApplication
      fun ended rest suffix calls enough => ended.application_follows suffix calls (by omega)
  · exact Ended.progresses_of_follows staysWithin_readAtom fun ended rest suffix calls enough =>
      ended.atom_follows suffix calls (by omega)
  · exact Ended.progresses_of_follows staysWithin_readGroup fun ended rest suffix calls enough =>
      ended.group_follows suffix calls enough
  · exact Ended.progresses_of_follows staysWithin_readRecord fun ended rest suffix calls enough =>
      ended.record_follows suffix calls enough
  · exact Ended.progresses_of_follows staysWithin_readField fun ended rest suffix calls enough =>
      ended.field_follows suffix calls (by omega)

/-- A parenthesis that is not closed is missed at the end. -/
example : parseWithin 12 "(a" =
    some (.error ⟨.expected (.mark .closeParen) .finish, 2, "(a"⟩) := by decide +kernel

end Signature
end SignatureSearch
