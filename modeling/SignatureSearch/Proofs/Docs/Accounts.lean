import Mathlib.Data.List.Basic
import SignatureSearch.Proofs.Docs.Outline
import SignatureSearch.Proofs.Text.Visible

/-!
# Accounts of a directive

An account of a text is a list of names and the prose after it that together hold all that the text
holds but its blanks: the names between commas, each as it is or in parentheses, a comma or none,
and the prose.  The main statement is that every directive of a comment is read as an account of its
block, and that the prose is a part of the block as it stands unless lines had to be joined.
-/

namespace SignatureSearch
namespace Docs

/-- A name in a text that lists it. -/
structure Listing where
  /-- The name. -/
  name : List Char
  /-- The text. -/
  written : List Char
  /-- The name stands as it is or in parentheses. -/
  spelled : written = name ∨ written = '(' :: (name ++ [')'])

/-- A list of names and the prose after it that hold a text up to its blanks. -/
structure Account (text : List Char) where
  /-- The listed names in order. -/
  listings : List Listing
  /-- Whether a comma stands after the last name. -/
  comma : Bool
  /-- The prose, empty when there is none. -/
  prose : List Char
  /-- A comma stands only after a name. -/
  follows : listings = [] → comma = false
  /-- Nothing is left out but blanks. -/
  whole : Text.visible text = Text.visible
    (Text.join [','] (listings.map Listing.written) ++ (if comma then [','] else []) ++ prose)

/-- A comment is cut at all of its markers into the text before the first of them and the blocks of
its directives. -/
structure CutAtMarkers (comment leading : List Char) (blocks : List (List Char)) : Prop where
  /-- Every block has a marker before it. -/
  whole : comment = leading ++ blocks.flatMap (marker ++ ·)
  /-- No marker is left in the leading text. -/
  leading_unmarked : ¬ marker <:+: leading
  /-- No marker is left in a block. -/
  unmarked : ∀ block ∈ blocks, ¬ marker <:+: block

/-! ## Names -/

/-- What is read as a name is the name as it is or in parentheses. -/
theorem written_of_entryName? {token name : List Char} (named : entryName? token = some name) :
    token = name ∨ token = '(' :: (name ++ [')']) := by
  unfold entryName? at named
  split at named
  · exact .inl (Option.some.inj named)
  · split at named
    · rename_i operator
      simp only [isOperator, Bool.and_eq_true, beq_iff_eq] at operator
      obtain ⟨⟨⟨-, first⟩, last⟩, -⟩ := operator
      obtain ⟨inner, rfl⟩ := List.head?_eq_some_iff.mp first
      rw [List.drop_succ_cons, List.drop_zero, Option.some.injEq] at named
      obtain ⟨front, shape⟩ := List.getLast?_eq_some_iff.mp last
      -- The parentheses are two, since an operator is longer than that.
      cases front with
      | nil => simp at shape
      | cons c front =>
          obtain ⟨rfl, rfl⟩ : '(' = c ∧ inner = front ++ [')'] := List.cons.inj shape
          rw [List.dropLast_concat] at named
          exact .inr (by rw [named])
    · cases named

namespace Account

/-! ## Putting accounts together -/

/-- The pieces of a comment that an account stands for. -/
def pieces {text : List Char} (account : Account text) : List Piece :=
  account.listings.map (fun listing => .mention (String.ofList listing.name))
    ++ if account.prose = [] then [] else [.prose (String.ofList account.prose)]

/-- The part of a page that an account stands for. -/
def page {text : List Char} (account : Account text) (package : String) : List Chunk :=
  account.pieces.map (Piece.chunk package)

/-- A text that is blank is no prose. -/
def spoken (text : List Char) : List Char :=
  if Text.isAllBlank text then [] else text

theorem visible_spoken (text : List Char) : Text.visible (spoken text) = Text.visible text := by
  unfold spoken
  split
  · rename_i blank
    exact (Text.visible_eq_nil_iff.mpr blank).symm
  · rfl

theorem spoken_suffix (text : List Char) : spoken text <:+ text := by
  unfold spoken
  split
  · exact List.nil_suffix
  · exact List.suffix_refl text

theorem ofProse_eq (text : List Char) : Piece.ofProse text =
    if spoken text = [] then [] else [.prose (String.ofList (spoken text))] := by
  unfold Piece.ofProse spoken
  cases blank : Text.isAllBlank text with
  | true => rfl
  | false =>
      have some_text : text ≠ [] := by
        rintro rfl
        cases blank
      simp [some_text]

/-- An account of a text is one of every text with the same visible characters. -/
def transfer {text other : List Char} (same : Text.visible other = Text.visible text)
    (account : Account text) : Account other where
  listings := account.listings
  comma := account.comma
  prose := account.prose
  follows := account.follows
  whole := same.trans account.whole

/-- A text without names. -/
def ofProse (text : List Char) : Account text where
  listings := []
  comma := false
  prose := spoken text
  follows _ := rfl
  whole := (visible_spoken text).symm

/-- A name and the prose that follows it without a comma. -/
def ofName (listing : Listing) (rest : List Char) : Account (listing.written ++ rest) where
  listings := [listing]
  comma := false
  prose := spoken rest
  follows := by simp
  whole := by simp [Text.join, visible_spoken]

/-- A name before the comma that goes before another text. -/
def next {text : List Char} (listing : Listing) (account : Account text) :
    Account (listing.written ++ ',' :: text) where
  listings := listing :: account.listings
  comma := account.listings.isEmpty || account.comma
  prose := account.prose
  follows := by simp
  whole := by
    have comma_visible (rest : List Char) :
        Text.visible (',' :: rest) = ',' :: Text.visible rest :=
      Text.visible_cons_of_not_blank (by decide) rest
    rw [Text.visible_append, comma_visible, account.whole]
    cases names : account.listings with
    | nil => simp [account.follows names, Text.join, comma_visible]
    | cons first others => simp [Text.join, comma_visible]

end Account

/-! ## Reading lists of names -/

/-- What stands after the last comma of a list is read as an account of it. -/
theorem account_ofTail (text : List Char) :
    ∃ account : Account text, account.pieces = Piece.ofTail text ∧ account.prose <:+ text := by
  have tail_suffix : Text.trimLeft text <:+ text := List.dropWhile_suffix _
  have same : Text.visible text = Text.visible (Text.trimLeft text) :=
    (Text.visible_trimLeft text).symm
  unfold Piece.ofTail
  cases named : entryName? (Text.firstWord (Text.trimLeft text)) with
  | none =>
      refine ⟨(Account.ofProse (Text.trimLeft text)).transfer same, ?_,
        (Account.spoken_suffix _).trans tail_suffix⟩
      simp only [named, Account.ofProse_eq]
      rfl
  | some name =>
      let word := Text.firstWord (Text.trimLeft text)
      let rest := (Text.trimLeft text).drop word.length
      have split : Text.trimLeft text = word ++ rest :=
        List.prefix_iff_eq_append.mp (List.takeWhile_prefix _) |>.symm
      rw [split] at same
      let listing : Listing := ⟨name, word, written_of_entryName? named⟩
      refine ⟨(Account.ofName listing rest).transfer same, ?_,
        (Account.spoken_suffix _).trans ((List.drop_suffix _ _).trans tail_suffix)⟩
      simp only [named, Account.ofProse_eq]
      rfl

/-- A list of names, given by the parts between its commas, is read as an account of it. -/
theorem account_ofParts (part : List Char) (parts : List (List Char)) :
    ∃ account : Account (Text.join [','] (part :: parts)),
      account.pieces = Piece.ofParts (part :: parts) ∧
        account.prose <:+ Text.join [','] (part :: parts) := by
  induction parts generalizing part with
  | nil =>
      cases named : entryName? (Text.trim part) with
      | none =>
          rw [Piece.ofParts, named]
          exact account_ofTail part
      | some name =>
          let listing : Listing := ⟨name, Text.trim part, written_of_entryName? named⟩
          have same : Text.visible part = Text.visible (listing.written ++ []) := by
            simp [listing]
          refine ⟨(Account.ofName listing []).transfer same, ?_, List.nil_suffix⟩
          rw [Piece.ofParts, named]
          rfl
  | cons following parts ih =>
      cases named : entryName? (Text.trim part) with
      | none =>
          rw [Piece.ofParts, named]
          exact account_ofTail _
      | some name =>
          obtain ⟨account, read, suffix⟩ := ih following
          let listing : Listing := ⟨name, Text.trim part, written_of_entryName? named⟩
          have same : Text.visible (Text.join [','] (part :: following :: parts)) =
              Text.visible (listing.written ++ ',' :: Text.join [','] (following :: parts)) := by
            simp [Text.join, listing]
          refine ⟨(account.next listing).transfer same, ?_, suffix.trans ?_⟩
          · rw [Piece.ofParts, named, ← read]
            rfl
          · exact List.suffix_append _ _

/-! ## Joined lines -/

theorem visible_absorb (line : List Char) (lines : List (List Char)) :
    Text.visible (absorb line lines).1 ++ (absorb line lines).2.flatMap Text.visible =
      Text.visible line ++ lines.flatMap Text.visible := by
  induction lines generalizing line with
  | nil => rfl
  | cons next lines ih =>
      rw [absorb]
      split
      · have blank : Text.visible (' ' :: Text.trim next) = Text.visible next := by
          rw [Text.visible_cons_of_blank (by decide), Text.visible_trim]
        rw [ih, Text.visible_append, Text.visible_trimRight, blank, List.flatMap_cons,
          List.append_assoc]
      · rfl

/-- Joining lines changes nothing but blanks. -/
theorem visible_joinContinuations (block : List Char) :
    Text.visible (joinContinuations block) = Text.visible block := by
  have line_end : Text.isAllBlank ['\n'] = true := by decide
  have lines := Text.visible_join_of_blank line_end
    ((Text.splitAt '\n' block).1 :: (Text.splitAt '\n' block).2)
  rw [Text.join_splitAt, List.flatMap_cons] at lines
  rw [joinContinuations, Text.visible_join_of_blank line_end, List.flatMap_cons, visible_absorb,
    lines]

/-- The block of a directive is read as an account of it, and the prose is a part of the block as it
stands when its first line ends in no comma. -/
theorem account_ofDirective (block : List Char) :
    ∃ account : Account block, account.pieces = Piece.ofDirective block ∧
      (continues (block.takeWhile (· ≠ '\n')) = false → account.prose <:+ block) := by
  let parts := Text.splitAt ',' (joinContinuations block)
  have whole : Text.join [','] (parts.1 :: parts.2) = joinContinuations block :=
    Text.join_splitAt ',' (joinContinuations block)
  obtain ⟨account, read, suffix⟩ := account_ofParts parts.1 parts.2
  have same : Text.visible block = Text.visible (Text.join [','] (parts.1 :: parts.2)) := by
    rw [whole, visible_joinContinuations]
  refine ⟨account.transfer same, read, fun ends => ?_⟩
  rw [← Text.fst_splitAt] at ends
  exact suffix.trans ((whole.trans (joinContinuations_eq_self ends)) ▸ List.suffix_refl _)

/-! ## Whole comments -/

theorem cutAtMarkers_splitOn (comment : List Char) :
    CutAtMarkers comment (Text.splitOn marker marker_ne_nil comment).1
      (Text.splitOn marker marker_ne_nil comment).2 := by
  obtain ⟨whole, leading, blocks⟩ := Text.splitOn_spec marker_ne_nil comment
  exact ⟨whole, leading, blocks⟩

/-- There is one way to cut a comment at its markers. -/
theorem CutAtMarkers.splitOn_eq {comment leading : List Char} {blocks : List (List Char)}
    (cut : CutAtMarkers comment leading blocks) :
    Text.splitOn marker marker_ne_nil comment = (leading, blocks) := by
  rw [cut.whole]
  exact Text.splitOn_flatMap (show marker = '\n' :: "@docs ".toList by decide +kernel)
    (by decide +kernel) marker_ne_nil leading blocks cut.leading_unmarked cut.unmarked

/-- A comment that is read has its leading text as it stands, unless that is blank, and after it the
accounts of the blocks between its markers: no text is lost but blanks, and none at all of the prose
where no lines are joined. -/
theorem chunks_account {known : String → Bool} {package module comment : String}
    {found : List Chunk} (succeeds : chunks known package module comment = .ok found) :
    ∃ leading blocks, CutAtMarkers comment.toList leading blocks ∧
      (∀ other others, CutAtMarkers comment.toList other others →
        other = leading ∧ others = blocks) ∧
      ∃ page : List Char → List Chunk,
        found = (if Text.isAllBlank leading then [] else [.prose (String.ofList leading)])
          ++ blocks.flatMap page ∧
        ∀ block ∈ blocks, ∃ account : Account block, page block = account.page package ∧
          (continues (block.takeWhile (· ≠ '\n')) = false → account.prose <:+ block) := by
  have cut := cutAtMarkers_splitOn comment.toList
  refine ⟨_, _, cut, fun other others same => ?_,
    fun block => (Piece.ofDirective block).map (Piece.chunk package), ?_, fun block _ => ?_⟩
  · rw [same.splitOn_eq]
    exact ⟨rfl, rfl⟩
  · obtain ⟨-, rfl⟩ := resolveAll_eq_ok_iff.mp succeeds
    rw [Piece.ofComment, List.map_append, List.map_flatMap, Piece.ofProse]
    split <;> rfl
  · obtain ⟨account, read, verbatim⟩ := account_ofDirective block
    exact ⟨account, congrArg (List.map (Piece.chunk package)) read.symm, verbatim⟩

/-- A comment with a list that goes on in a second line and one that ends in a comma. -/
def continuedComment : String :=
  "Lists, of all kinds.\n@docs map, (::),\n  sum\n\nSee map, too.\n@docs all,"

theorem chunks_account_continued :
    let found : List Chunk :=
      [.prose "Lists, of all kinds.", .entry "map" "elm/core", .entry "::" "elm/core",
        .entry "sum" "elm/core", .prose "\n\nSee map, too.", .entry "all" "elm/core"]
    chunks ["map", "::", "sum", "all"].contains "elm/core" "List" continuedComment = .ok found ∧
      ∃ leading blocks, CutAtMarkers continuedComment.toList leading blocks ∧
        (∀ other others, CutAtMarkers continuedComment.toList other others →
          other = leading ∧ others = blocks) ∧
        ∃ page : List Char → List Chunk,
          found = (if Text.isAllBlank leading then [] else [.prose (String.ofList leading)])
            ++ blocks.flatMap page ∧
          ∀ block ∈ blocks, ∃ account : Account block, page block = account.page "elm/core" ∧
            (continues (block.takeWhile (· ≠ '\n')) = false → account.prose <:+ block) := by
  intro found
  have succeeds : chunks ["map", "::", "sum", "all"].contains "elm/core" "List"
      continuedComment = .ok found := by decide +kernel
  exact ⟨succeeds, chunks_account succeeds⟩

end Docs
end SignatureSearch
