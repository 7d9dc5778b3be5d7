import Mathlib.Data.List.Chain
import SignatureSearch.Proofs.Signature.Lexing
import SignatureSearch.Proofs.Text.Splitting

/-!
# The layout of a signature

A signature is laid out as lexemes with blanks between them, and a blank has to stand between two
names.  A text has one layout at most, and the scanner succeeds exactly on the texts that have one,
with every lexeme at the position where it starts.  Where it fails it has laid out all the text
before a character that is no blank and at which no lexeme starts.
-/

namespace SignatureSearch
namespace Signature

open Lexeme (startsName continuesName spanName mark? first?)

/-- A lexeme with the blanks before it. -/
@[ext]
structure Spaced where
  /-- The blanks. -/
  gap : List Char
  /-- The lexeme. -/
  lexeme : Lexeme
  /-- Nothing but blanks stands before the lexeme. -/
  blank : Text.isAllBlank gap = true
  /-- The lexeme has a text. -/
  written : lexeme.IsWritten

/-- A lexeme may stand after another one: between two names there has to be a blank. -/
def MayFollow (lexeme : Lexeme) (next : Spaced) : Prop :=
  lexeme.isName = true → next.lexeme.isName = true → next.gap ≠ []

/-- The lexemes of a text with the blanks between them. -/
@[ext]
structure Layout where
  /-- The lexemes in order. -/
  words : List Spaced
  /-- The blanks after the last lexeme. -/
  last : List Char
  /-- Nothing but blanks stands after the last lexeme. -/
  blank : Text.isAllBlank last = true
  /-- Names are kept apart. -/
  apart : words.IsChain fun word next => MayFollow word.lexeme next

/-- The characters of lexemes with the blanks before each, and of the blanks after the last. -/
def spread (words : List Spaced) (last : List Char) : List Char :=
  words.flatMap (fun word => word.gap ++ word.lexeme.text.toList) ++ last

/-- The tokens of lexemes that begin at a position with their blanks. -/
def placed (position : Nat) : List Spaced → List Token
  | [] => []
  | word :: words =>
      let start := position + word.gap.length
      { lexeme := word.lexeme, position := start } ::
        placed (start + word.lexeme.text.length) words

namespace Layout

/-- The text that is laid out. -/
def text (layout : Layout) : String :=
  String.ofList (spread layout.words layout.last)

/-- The lexemes at the positions where they start, and the end of the text. -/
def tokens (layout : Layout) : List Token :=
  placed 0 layout.words ++ [{ lexeme := .finish, position := layout.text.length }]

end Layout

/-! ## From a layout to its tokens -/

section Spread

variable {word : Spaced} {words : List Spaced} {last : List Char}

theorem spread_nil : spread [] last = last := rfl

theorem spread_cons :
    spread (word :: words) last = word.gap ++ (word.lexeme.text.toList ++ spread words last) := by
  simp only [spread, List.flatMap_cons, List.append_assoc]

theorem trimLeft_spread_cons :
    Text.trimLeft (spread (word :: words) last) =
      word.lexeme.text.toList ++ spread words last := by
  obtain ⟨c, run, shape, notBlank, -⟩ := word.written.begins
  rw [spread_cons, Text.trimLeft_append_of_isAllBlank word.blank, shape, List.cons_append,
    Text.trimLeft_of_head_not_blank notBlank]

theorem separated_of_isAllBlank {text : List Char} (blank : Text.isAllBlank text = true) :
    Separated text := by
  intro c head
  have blankHead := List.all_eq_true.mp blank c (List.mem_of_mem_head? head)
  constructor
  · refine Bool.eq_false_iff.mpr fun continues => ?_
    rw [isBlank_eq_false_of_continuesName continues] at blankHead
    cases blankHead
  · rintro rfl
    exact absurd blankHead (by decide)

/-- After a name comes the end, a blank, or a lexeme with which the name does not go on. -/
theorem separated_spread (blank : Text.isAllBlank last = true) {lexeme : Lexeme}
    (name : lexeme.isName = true) (apart : ∀ next ∈ words.head?, MayFollow lexeme next) :
    Separated (spread words last) := by
  cases words with
  | nil => exact separated_of_isAllBlank blank
  | cons next words =>
      rw [spread_cons]
      have gap := separated_of_isAllBlank next.blank
      by_cases empty : next.gap = []
      · obtain ⟨c, run, shape, -, -, other⟩ := next.written.begins
        have unnamed : next.lexeme.isName = false :=
          Bool.eq_false_iff.mpr fun named => apart next rfl name named empty
        rw [empty, shape]
        simpa [Separated] using other unnamed
      · obtain ⟨c, front, shape⟩ := List.exists_cons_of_ne_nil empty
        rw [shape] at gap ⊢
        simpa [Separated] using gap

/-- The first lexeme of a layout is found after the blanks before it. -/
theorem first?_trimLeft_spread (blank : Text.isAllBlank last = true)
    (apart : ∀ next ∈ words.head?, MayFollow word.lexeme next) :
    first? (Text.trimLeft (spread (word :: words) last)) =
      some (word.lexeme, spread words last) := by
  rw [trimLeft_spread_cons]
  exact first?_written word.written fun name => separated_spread blank name apart

/-- Blanks are passed over. -/
theorem scanFrom_blank_append {gap : List Char} (blank : Text.isAllBlank gap = true)
    (position : Nat) (text : List Char) :
    Token.scanFrom position (gap ++ text) = Token.scanFrom (position + gap.length) text := by
  induction gap generalizing position with
  | nil => rfl
  | cons c gap ih =>
      rw [Text.isAllBlank, List.all_cons, Bool.and_eq_true] at blank
      rw [List.cons_append, Token.scanFrom, if_pos blank.1, ih blank.2, List.length_cons]
      congr 1
      omega

end Spread

namespace Layout

/-- The scanner finds the lexemes of a layout where they stand. -/
theorem scanFrom_spread (layout : Layout) (position : Nat) :
    Token.scanFrom position (spread layout.words layout.last) =
      .ok (placed position layout.words) := by
  obtain ⟨words, last, blank, apart⟩ := layout
  induction words generalizing position with
  | nil =>
      have blanks := scanFrom_blank_append blank position []
      rw [List.append_nil] at blanks
      rw [spread_nil, blanks, Token.scanFrom, placed]
  | cons word words ih =>
      obtain ⟨next, rest⟩ := List.isChain_cons.mp apart
      have found := first?_trimLeft_spread blank next
      obtain ⟨c, run, shape, notBlank, -⟩ := word.written.begins
      rw [trimLeft_spread_cons, shape, List.cons_append] at found
      rw [spread_cons, scanFrom_blank_append word.blank, shape, List.cons_append, placed]
      exact scanFrom_of_first? notBlank found (ih _ rest)

/-! ## One layout at most -/

/-- A text that begins with a lexeme is not blank. -/
theorem spread_cons_ne {word : Spaced} {words : List Spaced} {last other : List Char}
    (blank : Text.isAllBlank other = true) : spread (word :: words) last ≠ other := by
  rintro rfl
  obtain ⟨c, run, shape, -⟩ := word.written.begins
  rw [← Text.trimLeft_eq_nil_iff, trimLeft_spread_cons, shape] at blank
  cases blank

/-- A text can be laid out in one way only. -/
theorem spread_injective (layout other : Layout)
    (same : spread layout.words layout.last = spread other.words other.last) : layout = other := by
  obtain ⟨words, last, blank, apart⟩ := layout
  obtain ⟨words', last', blank', apart'⟩ := other
  suffices equal : words = words' ∧ last = last' from Layout.ext equal.1 equal.2
  change spread words last = spread words' last' at same
  induction words generalizing words' with
  | nil =>
      cases words' with
      | nil => exact ⟨rfl, same⟩
      | cons word' words' => exact absurd same.symm (spread_cons_ne blank)
  | cons word words ih =>
      cases words' with
      | nil => exact absurd same (spread_cons_ne blank')
      | cons word' words' =>
          obtain ⟨next, rest⟩ := List.isChain_cons.mp apart
          obtain ⟨next', rest'⟩ := List.isChain_cons.mp apart'
          -- The same lexeme is found after the blanks of both, with the same text after it.
          have found := first?_trimLeft_spread blank next
          rw [same, first?_trimLeft_spread blank' next', Option.some.injEq, Prod.mk.injEq] at found
          obtain ⟨lexeme, more⟩ := found
          rw [spread_cons, spread_cons, lexeme, more] at same
          have gap := List.append_cancel_right same
          obtain ⟨rfl, rfl⟩ := ih rest words' rest' more.symm
          exact ⟨congrArg (· :: words) (Spaced.ext gap lexeme.symm), rfl⟩

theorem text_injective : Function.Injective Layout.text := fun layout other same =>
  spread_injective layout other (String.ofList_injective same)

/-! ## Longer layouts -/

/-- A layout with one more blank in front of it. -/
def space (c : Char) (blank : Text.isBlank c = true) : Layout → Layout
  | ⟨[], last, rest, _⟩ =>
      ⟨[], c :: last, by rw [Text.isAllBlank, List.all_cons, blank]; exact rest, .nil⟩
  | ⟨word :: words, last, rest, apart⟩ =>
      ⟨⟨c :: word.gap, word.lexeme, by
            rw [Text.isAllBlank, List.all_cons, blank]
            exact word.blank, word.written⟩ :: words,
        last, rest, List.isChain_cons.mpr (List.isChain_cons.mp apart)⟩

theorem spread_space {c : Char} (blank : Text.isBlank c = true) (layout : Layout) :
    spread (layout.space c blank).words (layout.space c blank).last =
      c :: spread layout.words layout.last := by
  obtain ⟨_ | ⟨word, words⟩, last, rest, apart⟩ := layout
  · rfl
  · simp only [space, spread_cons, List.cons_append]

theorem placed_space {c : Char} (blank : Text.isBlank c = true) (layout : Layout) (position : Nat) :
    placed position (layout.space c blank).words = placed (position + 1) layout.words := by
  obtain ⟨_ | ⟨word, words⟩, last, rest, apart⟩ := layout
  · rfl
  · have start : position + (c :: word.gap).length = position + 1 + word.gap.length := by
      rw [List.length_cons]
      omega
    simp only [space, placed, start]

/-- A layout with one more lexeme in front of it. -/
def after (lexeme : Lexeme) (written : lexeme.IsWritten) (layout : Layout)
    (apart : ∀ next ∈ layout.words.head?, MayFollow lexeme next) : Layout :=
  ⟨⟨[], lexeme, rfl, written⟩ :: layout.words, layout.last, layout.blank,
    List.isChain_cons.mpr ⟨apart, layout.apart⟩⟩

theorem spread_after {lexeme : Lexeme} (written : lexeme.IsWritten) (layout : Layout)
    (apart : ∀ next ∈ layout.words.head?, MayFollow lexeme next) :
    spread (layout.after lexeme written apart).words (layout.after lexeme written apart).last =
      lexeme.text.toList ++ spread layout.words layout.last := by
  rw [after, spread_cons, List.nil_append]

/-- No name stands directly after a name that was taken as far as it goes. -/
theorem apart_of_first? {text rest : List Char} {lexeme : Lexeme} {layout : Layout}
    (found : first? text = some (lexeme, rest))
    (begins : spread layout.words layout.last <+: rest) :
    ∀ next ∈ layout.words.head?, MayFollow lexeme next := by
  intro next head name nextName empty
  obtain ⟨words, same⟩ := List.head?_eq_some_iff.mp head
  obtain ⟨c, run, shape, -, continues, -⟩ := next.written.begins
  obtain ⟨back, rfl⟩ := begins
  rw [same, spread_cons, empty, shape] at found
  have stops := (written_of_first? found).2.2 name c rfl
  rw [continues nextName] at stops
  cases stops

end Layout

/-! ## How far a scan gets -/

/-- What a scan of a text finds: a layout of all of it, or one of the text before a character that
is no blank and at which nothing is found. -/
inductive Scanned (position : Nat) (text : List Char) :
    Except StrayCharacter (List Token) → Prop
  /-- All of the text is laid out. -/
  | whole (layout : Layout) (all : spread layout.words layout.last = text) :
      Scanned position text (.ok (placed position layout.words))
  /-- The text before a character is laid out. -/
  | stray (layout : Layout) {c : Char} {back : List Char}
      (all : spread layout.words layout.last ++ c :: back = text)
      (notBlank : Text.isBlank c = false) (missing : first? (c :: back) = none) :
      Scanned position text
        (.error ⟨c, position + (spread layout.words layout.last).length⟩)

theorem Scanned.space {position : Nat} {c : Char} {text : List Char}
    {outcome : Except StrayCharacter (List Token)} (blank : Text.isBlank c = true)
    (scanned : Scanned (position + 1) text outcome) : Scanned position (c :: text) outcome := by
  cases scanned with
  | whole layout all =>
      rw [← layout.placed_space blank]
      exact .whole (layout.space c blank) (by rw [layout.spread_space blank, all])
  | @stray layout d back all notBlank missing =>
      have length : position + 1 + (spread layout.words layout.last).length =
          position + (spread (layout.space c blank).words (layout.space c blank).last).length := by
        rw [layout.spread_space blank, List.length_cons]
        omega
      rw [length]
      refine .stray (layout.space c blank) ?_ notBlank missing
      rw [layout.spread_space blank, List.cons_append, all]

theorem Scanned.after {position : Nat} {text rest : List Char} {lexeme : Lexeme}
    {outcome : Except StrayCharacter (List Token)} (found : first? text = some (lexeme, rest))
    (scanned : Scanned (position + lexeme.text.length) rest outcome) :
    Scanned position text (outcome.map (⟨lexeme, position⟩ :: ·)) := by
  obtain ⟨written, shape, -⟩ := written_of_first? found
  cases scanned with
  | whole layout all =>
      have apart := Layout.apart_of_first? found ⟨[], by rw [List.append_nil, all]⟩
      exact .whole (layout.after lexeme written apart) (by rw [layout.spread_after, all, shape])
  | @stray layout c back all notBlank missing =>
      have apart := Layout.apart_of_first? found ⟨c :: back, all⟩
      have length : position + lexeme.text.length + (spread layout.words layout.last).length =
          position + (spread (layout.after lexeme written apart).words
            (layout.after lexeme written apart).last).length := by
        rw [layout.spread_after, List.length_append, String.length_toList]
        omega
      rw [length]
      refine .stray (layout.after lexeme written apart) ?_ notBlank missing
      rw [layout.spread_after, List.append_assoc, all, shape]

/-- Every scan lays out the text as far as it gets. -/
theorem scanned_scanFrom (position : Nat) (text : List Char) :
    Scanned position text (Token.scanFrom position text) := by
  fun_induction Token.scanFrom position text with
  | case1 position => exact .whole ⟨[], [], rfl, .nil⟩ rfl
  | case2 position c rest blank ih => exact ih.space blank
  | case3 position c rest notBlank missing =>
      exact .stray ⟨[], [], rfl, .nil⟩ rfl (by simpa using notBlank) missing
  | case4 position c rest _ lexeme after found stray failed ih =>
      rw [failed] at ih
      exact ih.after found
  | case5 position c rest _ lexeme after found tokens inner ih =>
      rw [inner] at ih
      exact ih.after found

/-! ## The tokens of a signature -/

theorem tokenize_text (layout : Layout) : Token.tokenize layout.text = .ok layout.tokens := by
  have scanned := layout.scanFrom_spread 0
  rw [Token.tokenize, Token.scan, Layout.text, String.toList_ofList, scanned]
  rfl

theorem exists_layout_of_tokenize {signature : String} {tokens : List Token}
    (scanned : Token.tokenize signature = .ok tokens) :
    ∃ layout : Layout, layout.text = signature ∧ layout.tokens = tokens := by
  have found := scanned_scanFrom 0 signature.toList
  rw [Token.tokenize, Token.scan] at scanned
  split at scanned
  · cases scanned
  · rename_i placedTokens inner
    rw [inner] at found
    cases found with
    | whole layout all =>
      have text : layout.text = signature := by rw [Layout.text, all, String.ofList_toList]
      refine ⟨layout, text, ?_⟩
      cases scanned
      rw [Layout.tokens, text]

/-- Before a character at which a scan fails everything is laid out, and nothing starts there. -/
theorem exists_layout_of_stray {signature : String} {stray : StrayCharacter}
    (failed : Token.tokenize signature = .error stray) :
    ∃ layout : Layout, ∃ back, layout.text.toList ++ stray.character :: back = signature.toList ∧
      layout.text.length = stray.position ∧ Text.isBlank stray.character = false ∧
        first? (stray.character :: back) = none := by
  have found := scanned_scanFrom 0 signature.toList
  rw [Token.tokenize, Token.scan] at failed
  split at failed
  · rename_i stray inner
    rw [inner] at found
    cases failed
    cases found with
    | @stray layout c back all notBlank missing =>
      refine ⟨layout, back, ?_, ?_, notBlank, missing⟩
      · rw [Layout.text, String.toList_ofList, all]
      · rw [Layout.text, String.length_ofList, Nat.zero_add]
  · cases failed

/-- A signature has exactly the tokens of its layout and none without a layout; it has one layout at
most; and where the scanner fails, the text before is cut into tokens, and neither a blank nor a
lexeme comes next. -/
theorem tokenize_exact :
    (∀ (signature : String) (tokens : List Token), Token.tokenize signature = .ok tokens ↔
      ∃ layout : Layout, layout.text = signature ∧ layout.tokens = tokens) ∧
    Function.Injective Layout.text ∧
    ∀ (signature : String) (stray : StrayCharacter), Token.tokenize signature = .error stray →
      (∃ tokens, Token.tokenize (String.ofList (signature.toList.take stray.position)) =
        .ok tokens) ∧
      signature.toList[stray.position]? = some stray.character ∧
      Text.isBlank stray.character = false ∧
      ∀ lexeme : Lexeme, lexeme.IsWritten →
        ¬ lexeme.text.toList <+: signature.toList.drop stray.position := by
  refine ⟨?_, Layout.text_injective, ?_⟩
  · intro signature tokens
    constructor
    · exact exists_layout_of_tokenize
    · rintro ⟨layout, rfl, rfl⟩
      exact tokenize_text layout
  · intro signature stray failed
    obtain ⟨layout, back, whole, length, notBlank, missing⟩ := exists_layout_of_stray failed
    rw [← String.length_toList] at length
    rw [← whole, ← length, List.take_left, List.drop_left]
    refine ⟨⟨layout.tokens, ?_⟩, ?_, notBlank, fun lexeme => not_prefix_of_first? missing⟩
    · rw [String.ofList_toList]
      exact tokenize_text layout
    · simp

/-- Text before a stray dot is cut into tokens, and a scan of all of it fails at the dot. -/
theorem tokenize_exact_dot :
    Token.tokenize "a.b -> c.1" = .error ⟨'.', 8⟩ ∧
      ∃ tokens, Token.tokenize "a.b -> c" = .ok tokens := by
  have failed : Token.tokenize "a.b -> c.1" = .error ⟨'.', 8⟩ := by decide +kernel
  exact ⟨failed, (tokenize_exact.2.2 "a.b -> c.1" ⟨'.', 8⟩ failed).1⟩

end Signature
end SignatureSearch
