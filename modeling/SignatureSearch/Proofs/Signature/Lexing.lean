import SignatureSearch.Proofs.Signature.Name

/-!
# Texts and their lexemes

Which lexemes a text spells, said lexeme by lexeme: blanks stand anywhere, and a name ends where it
cannot go on.  A scan succeeds exactly on the texts that spell something, with the lexemes that they
spell.  Texts may be put together wherever the first does not end in a name that the second would
continue, which is how the text of a tree is followed through its parts.
-/

namespace SignatureSearch
namespace Signature

open Lexeme (startsName continuesName spanName mark? first?)

namespace Lexeme

/-- A lexeme that stands in a text: an arrow, a punctuation mark or a dotted name. -/
def IsWritten : Lexeme → Prop
  | name text => IsPath text
  | finish => False
  | _ => True

/-- Whether a lexeme is a name. -/
def isName : Lexeme → Bool
  | name _ => true
  | _ => false

end Lexeme

/-- A text spells lexemes. -/
inductive Spells : List Char → List Lexeme → Prop
  | nil : Spells [] []
  /-- A blank spells nothing. -/
  | blank {c : Char} {text : List Char} {word : List Lexeme} (blank : Text.isBlank c = true)
      (more : Spells text word) : Spells (c :: text) word
  /-- A punctuation mark. -/
  | mark {c : Char} {lexeme : Lexeme} {text : List Char} {word : List Lexeme}
      (mark : mark? c = some lexeme) (more : Spells text word) : Spells (c :: text) (lexeme :: word)
  /-- An arrow. -/
  | arrow {text : List Char} {word : List Lexeme} (more : Spells text word) :
      Spells ('-' :: '>' :: text) (.arrow :: word)
  /-- A name that ends where the rest begins. -/
  | name {c : Char} {run text : List Char} {word : List Lexeme} (starts : startsName c = true)
      (continues : Continues run) (separated : Separated text) (more : Spells text word) :
      Spells (c :: (run ++ text)) (.name (String.ofList (c :: run)) :: word)

/-! ## Kinds of characters -/

theorem isBlank_eq_false_of_continuesName {c : Char} (continues : continuesName c = true) :
    Text.isBlank c = false := by
  simp only [continuesName, Bool.or_eq_true, beq_iff_eq] at continues
  rcases continues with (alphanumeric | rfl) | rfl
  · exact Text.isBlank_eq_false_of_isAlphanum alphanumeric
  · decide
  · decide

theorem isBlank_eq_false_of_startsName {c : Char} (starts : startsName c = true) :
    Text.isBlank c = false :=
  isBlank_eq_false_of_continuesName (continuesName_of_startsName starts)

theorem mark?_eq_none_of_startsName {c : Char} (starts : startsName c = true) :
    mark? c = none := by
  unfold mark?
  split <;> first | rfl | exact absurd starts (by decide)

theorem ne_dash_of_startsName {c : Char} (starts : startsName c = true) : c ≠ '-' := by
  rintro rfl
  exact absurd starts (by decide)

theorem isBlank_eq_false_of_mark {c : Char} {lexeme : Lexeme} (mark : mark? c = some lexeme) :
    Text.isBlank c = false := by
  unfold mark? at mark
  split at mark <;> first | decide | cases mark

theorem ne_dash_of_mark {c : Char} {lexeme : Lexeme} (mark : mark? c = some lexeme) : c ≠ '-' := by
  rintro rfl
  cases mark

theorem continuesName_eq_false_of_mark {c : Char} {lexeme : Lexeme} (mark : mark? c = some lexeme) :
    continuesName c = false ∧ c ≠ '.' := by
  unfold mark? at mark
  split at mark <;> first | decide | cases mark

/-! ## One lexeme -/

theorem isWritten_of_mark {c : Char} {lexeme : Lexeme} (mark : mark? c = some lexeme) :
    lexeme.IsWritten ∧ lexeme.text.toList = [c] ∧ lexeme.isName = false := by
  unfold mark? at mark
  split at mark <;> cases mark <;> exact ⟨trivial, rfl, rfl⟩

/-- What is written is an arrow, a mark or a name. -/
theorem Lexeme.IsWritten.shape {lexeme : Lexeme} (written : lexeme.IsWritten) :
    lexeme = .arrow ∨ (∃ c, mark? c = some lexeme) ∨
      ∃ c run, lexeme = .name (String.ofList (c :: run)) ∧ startsName c = true ∧ Continues run := by
  cases lexeme with
  | arrow => exact .inl rfl
  | openParen => exact .inr (.inl ⟨'(', rfl⟩)
  | closeParen => exact .inr (.inl ⟨')', rfl⟩)
  | comma => exact .inr (.inl ⟨',', rfl⟩)
  | openBrace => exact .inr (.inl ⟨'\x7b', rfl⟩)
  | closeBrace => exact .inr (.inl ⟨'\x7d', rfl⟩)
  | colon => exact .inr (.inl ⟨':', rfl⟩)
  | bar => exact .inr (.inl ⟨'|', rfl⟩)
  | name text =>
      obtain ⟨c, run, shape, starts, continues⟩ := IsPath.continues written
      refine .inr (.inr ⟨c, run, ?_, starts, continues⟩)
      rw [← shape, String.ofList_toList]
  | finish => cases written

/-- A lexeme begins with no blank, and only a name begins with a character of names. -/
theorem Lexeme.IsWritten.begins {lexeme : Lexeme} (written : lexeme.IsWritten) :
    ∃ c run, lexeme.text.toList = c :: run ∧ Text.isBlank c = false ∧
      (lexeme.isName = true → continuesName c = true) ∧
      (lexeme.isName = false → continuesName c = false ∧ c ≠ '.') := by
  rcases written.shape with rfl | ⟨c, mark⟩ | ⟨c, run, rfl, starts, -⟩
  · exact ⟨'-', ['>'], rfl, by decide, by decide, by decide⟩
  · obtain ⟨-, single, unnamed⟩ := isWritten_of_mark mark
    refine ⟨c, [], single, isBlank_eq_false_of_mark mark, ?_, fun _ =>
      continuesName_eq_false_of_mark mark⟩
    rw [unnamed]
    exact nofun
  · exact ⟨c, run, String.toList_ofList, isBlank_eq_false_of_startsName starts,
      fun _ => continuesName_of_startsName starts, nofun⟩

theorem first?_mark {c : Char} {lexeme : Lexeme} (mark : mark? c = some lexeme)
    (text : List Char) : first? (c :: text) = some (lexeme, text) := by
  rw [first?]
  · simp [mark]
  · rintro tail rfl
    exact absurd rfl (ne_dash_of_mark mark)

theorem first?_name {c : Char} {run text : List Char} (starts : startsName c = true)
    (continues : Continues run) (separated : Separated text) :
    first? (c :: (run ++ text)) = some (.name (String.ofList (c :: run)), text) := by
  rw [first?]
  · simp [mark?_eq_none_of_startsName starts, starts,
      spanName_append_of_separated continues separated]
  · rintro tail rfl
    exact absurd rfl (ne_dash_of_startsName starts)

theorem spanName_stops (text : List Char) :
    ∀ c ∈ (spanName text).2.head?, continuesName c = false := by
  fun_induction spanName text with
  | case1 => simp
  | case2 => simp
  | case3 c stops => simpa using stops
  | case4 c d text both run rest found ih =>
      rw [found] at ih
      exact ih
  | case5 c d text _ continues run rest found ih =>
      rw [found] at ih
      exact ih
  | case6 c d text _ stops => simpa using stops

/-- A lexeme is found at the head of a text that begins with it, unless it is a name that goes
on. -/
theorem first?_written {lexeme : Lexeme} (written : lexeme.IsWritten) {rest : List Char}
    (separated : lexeme.isName = true → Separated rest) :
    first? (lexeme.text.toList ++ rest) = some (lexeme, rest) := by
  rcases written.shape with rfl | ⟨c, mark⟩ | ⟨c, run, rfl, starts, continues⟩
  · rfl
  · rw [(isWritten_of_mark mark).2.1]
    exact first?_mark mark rest
  · rw [Lexeme.text, String.toList_ofList]
    exact first?_name starts continues (separated rfl)

/-- What is found at the head of a text is written there, and a name is taken as far as it goes. -/
theorem written_of_first? {text rest : List Char} {lexeme : Lexeme}
    (found : first? text = some (lexeme, rest)) :
    lexeme.IsWritten ∧ lexeme.text.toList ++ rest = text ∧
      (lexeme.isName = true → ∀ c ∈ rest.head?, continuesName c = false) := by
  unfold first? at found
  split at found
  · cases found
    exact ⟨trivial, rfl, nofun⟩
  · rename_i c tail _
    split at found
    · rename_i mark kind
      cases found
      obtain ⟨written, single, unnamed⟩ := isWritten_of_mark kind
      refine ⟨written, by rw [single, List.singleton_append], ?_⟩
      rw [unnamed]
      exact nofun
    · split at found
      · rename_i starts
        have whole := Lexeme.spanName_append tail
        have continues := spanName_continues tail
        have stops := spanName_stops tail
        split at found
        rename_i run after span
        cases found
        rw [span] at whole continues stops
        refine ⟨?_, ?_, fun _ => stops⟩
        · have path : IsPath (String.ofList (c :: ([] ++ run))) := continues.isPath starts (by simp)
          exact path
        · rw [Lexeme.text, String.toList_ofList, List.cons_append, whole]
      · cases found
  · cases found

/-- Where nothing is found no lexeme starts. -/
theorem not_prefix_of_first? {text : List Char} (missing : first? text = none) {lexeme : Lexeme}
    (written : lexeme.IsWritten) : ¬ lexeme.text.toList <+: text := by
  rintro ⟨rest, rfl⟩
  rcases written.shape with rfl | ⟨c, mark⟩ | ⟨c, run, rfl, starts, -⟩
  · cases missing
  · rw [(isWritten_of_mark mark).2.1, List.singleton_append, first?_mark mark rest] at missing
    cases missing
  · rw [Lexeme.text, String.toList_ofList, List.cons_append, first?] at missing
    · simp [mark?_eq_none_of_startsName starts, starts] at missing
    · rintro tail same
      exact absurd same (ne_dash_of_startsName starts)

theorem not_spells_dot {text : List Char} {word : List Lexeme} :
    ¬ Spells ('.' :: text) word := by
  intro spells
  cases spells with
  | blank blank _ => exact absurd blank (by decide)
  | mark mark _ => cases mark
  | name starts _ _ _ => exact absurd starts (by decide)

/-- What is found at the head of a text comes before what the rest spells. -/
theorem Spells.of_first? {text rest : List Char} {lexeme : Lexeme} {word : List Lexeme}
    (found : first? text = some (lexeme, rest)) (more : Spells rest word) :
    Spells text (lexeme :: word) := by
  obtain ⟨written, rfl, stops⟩ := written_of_first? found
  rcases written.shape with rfl | ⟨c, mark⟩ | ⟨c, run, rfl, starts, continues⟩
  · exact .arrow more
  · rw [(isWritten_of_mark mark).2.1]
    exact .mark mark more
  · rw [Lexeme.text, String.toList_ofList]
    refine .name starts continues (fun d head => ⟨stops rfl d head, ?_⟩) more
    rintro rfl
    -- No lexeme starts with a dot, so what is spelled after the name does not.
    obtain ⟨others, rfl⟩ := List.head?_eq_some_iff.mp head
    exact not_spells_dot more

/-! ## The scan -/

/-- A scan that succeeds finds what the text spells. -/
theorem spells_of_scanFrom {position : Nat} {text : List Char} {tokens : List Token}
    (scanned : Token.scanFrom position text = .ok tokens) :
    Spells text (tokens.map Token.lexeme) := by
  fun_induction Token.scanFrom position text generalizing tokens with
  | case1 => cases scanned; exact .nil
  | case2 position c rest blank ih => exact .blank blank (ih scanned)
  | case3 => cases scanned
  | case4 => cases scanned
  | case5 position c rest _ lexeme after found tokens inner ih =>
      cases scanned
      exact .of_first? found (ih inner)

/-- A scan takes what it finds at the head of a text and goes on after it. -/
theorem scanFrom_of_first? {position : Nat} {c : Char} {text after : List Char} {lexeme : Lexeme}
    {tokens : List Token} (notBlank : Text.isBlank c = false)
    (found : first? (c :: text) = some (lexeme, after))
    (scanned : Token.scanFrom (position + lexeme.text.length) after = .ok tokens) :
    Token.scanFrom position (c :: text) = .ok (⟨lexeme, position⟩ :: tokens) := by
  rw [Token.scanFrom, notBlank]
  simp only [Bool.false_eq_true, if_false]
  split
  · rename_i missing
    rw [found] at missing
    cases missing
  · rename_i other rest same
    rw [found] at same
    cases same
    rw [scanned]

/-- A text that spells something is scanned. -/
theorem Spells.scanFrom {text : List Char} {word : List Lexeme} (spells : Spells text word) :
    ∀ position, ∃ tokens, Token.scanFrom position text = .ok tokens ∧
      tokens.map Token.lexeme = word := by
  induction spells with
  | nil => exact fun position => ⟨[], by rw [Token.scanFrom], rfl⟩
  | blank blank _ ih =>
      intro position
      rw [Token.scanFrom, if_pos blank]
      exact ih (position + 1)
  | @mark c lexeme text word mark _ ih =>
      intro position
      obtain ⟨tokens, scanned, rfl⟩ := ih (position + lexeme.text.length)
      exact ⟨_, scanFrom_of_first? (isBlank_eq_false_of_mark mark) (first?_mark mark text) scanned,
        rfl⟩
  | @arrow text word _ ih =>
      intro position
      obtain ⟨tokens, scanned, rfl⟩ := ih (position + Lexeme.arrow.text.length)
      exact ⟨_, scanFrom_of_first? (by decide) rfl scanned, rfl⟩
  | @name c run text word starts continues separated _ ih =>
      intro position
      obtain ⟨tokens, scanned, rfl⟩ := ih (position + (String.ofList (c :: run)).length)
      exact ⟨_, scanFrom_of_first? (isBlank_eq_false_of_startsName starts)
        (first?_name starts continues separated) scanned, rfl⟩

/-- A signature is scanned exactly when it spells something. -/
theorem spells_iff_scan {signature : String} {word : List Lexeme} :
    Spells signature.toList word ↔
      ∃ tokens, Token.scan signature = .ok tokens ∧ tokens.map Token.lexeme = word := by
  constructor
  · intro spells
    exact spells.scanFrom 0
  · rintro ⟨tokens, scanned, rfl⟩
    exact spells_of_scanFrom scanned

/-- A text spells one word at most. -/
theorem Spells.unique {text : List Char} {word other : List Lexeme} (first : Spells text word)
    (second : Spells text other) : word = other := by
  obtain ⟨tokens, scanned, rfl⟩ := first.scanFrom 0
  obtain ⟨others, scannedToo, rfl⟩ := second.scanFrom 0
  rw [Except.ok.inj (scanned.symm.trans scannedToo)]

/-! ## Parts of a text -/

theorem Separated.append {front back : List Char} (separated : Separated front)
    (next : Separated back) : Separated (front ++ back) := by
  cases front with
  | nil => exact next
  | cons c front => exact separated

/-- Texts are put together where the second does not continue a name. -/
theorem Spells.append {front back : List Char} {first second : List Lexeme}
    (one : Spells front first) (two : Spells back second) (separated : Separated back) :
    Spells (front ++ back) (first ++ second) := by
  induction one with
  | nil => exact two
  | blank blank _ ih => exact .blank blank ih
  | mark mark _ ih => exact .mark mark ih
  | arrow _ ih => exact .arrow ih
  | name starts continues ends _ ih =>
      rw [List.cons_append, List.append_assoc]
      exact .name starts continues (ends.append separated) ih

/-- A dotted name spells itself. -/
theorem IsPath.spells {text : String} (path : IsPath text) :
    Spells text.toList [.name text] := by
  obtain ⟨c, run, shape, starts, continues⟩ := path.continues
  have spells : Spells (c :: (run ++ [])) [.name (String.ofList (c :: run))] :=
    .name starts continues (by simp [Separated]) .nil
  rw [List.append_nil, ← shape, String.ofList_toList] at spells
  exact spells

/-- All names that a text spells are dotted names. -/
theorem Spells.isPath {text : List Char} {word : List Lexeme} (spells : Spells text word) :
    ∀ name, .name name ∈ word → IsPath name := by
  induction spells with
  | nil => simp
  | blank _ _ ih => exact ih
  | mark mark _ ih =>
      intro name member
      rcases List.mem_cons.mp member with rfl | later
      · unfold mark? at mark
        split at mark <;> cases mark
      · exact ih name later
  | arrow _ ih => simpa using ih
  | @name c run _ _ starts continues _ _ ih =>
      intro name member
      rcases List.mem_cons.mp member with same | later
      · cases same
        have path : IsPath (String.ofList (c :: ([] ++ run))) := continues.isPath starts (by simp)
        exact path
      · exact ih name later

/-- A blank text spells nothing. -/
theorem Spells.eq_nil_of_blank {text : List Char} {word : List Lexeme} (spells : Spells text word)
    (blank : Text.isAllBlank text = true) : word = [] := by
  rw [Text.isAllBlank, List.all_eq_true] at blank
  induction spells with
  | nil => rfl
  | blank _ _ ih => exact ih fun c member => blank c (List.mem_cons_of_mem _ member)
  | mark mark _ _ =>
      have first := blank _ List.mem_cons_self
      rw [isBlank_eq_false_of_mark mark] at first
      cases first
  | arrow _ _ => exact absurd (blank '-' List.mem_cons_self) (by decide)
  | name starts _ _ _ _ =>
      have first := blank _ List.mem_cons_self
      rw [isBlank_eq_false_of_startsName starts] at first
      cases first

end Signature
end SignatureSearch
