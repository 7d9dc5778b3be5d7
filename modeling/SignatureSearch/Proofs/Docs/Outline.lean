import SignatureSearch.Proofs.Docs.Names

/-!
# Comments printed from an outline

An outline is what a comment says: an introduction, and directives with the names that they list
and the prose after them.  The main statement is that a comment printed from an outline reads back
as the outline exactly when the last name of no directive runs on, that is, when no directive ends
in an operator whose closing parenthesis is taken for one in the prose.
-/

namespace SignatureSearch
namespace Docs

/-- A directive: the names that it lists and the prose after it. -/
structure Directive where
  /-- The names before the last. -/
  earlier : List Name
  /-- The last name. -/
  last : Name
  /-- The prose, from the end of the last line of names. -/
  prose : List Char
  /-- The names fill their lines. -/
  fills_line : ∀ c, prose.head? = some c → c = '\n'
  /-- The prose does not go on with the list. -/
  ends_list : (Text.trimLeft prose).head? ≠ some ','
  /-- The prose holds no directive. -/
  unmarked : ¬ marker <:+: prose

namespace Directive

/-- The names that a directive lists. -/
def names (directive : Directive) : List Name :=
  directive.earlier ++ [directive.last]

/-- A directive as a comment has it, without its marker. -/
def written (directive : Directive) : List Char :=
  Text.join [',', ' '] (directive.names.map Name.listed) ++ directive.prose

/-- What a directive says. -/
def pieces (directive : Directive) : List Piece :=
  directive.names.map Name.mention ++ Piece.ofProse directive.prose

/-- The text after the last name that stands before the next comma. -/
def adjoining (directive : Directive) : List Char :=
  Text.trimRight (directive.prose.takeWhile (· ≠ ','))

/-- The last name runs on into the prose. -/
def RunsOn (directive : Directive) : Prop :=
  directive.last.RunsOn directive.adjoining

instance (directive : Directive) : Decidable directive.RunsOn :=
  inferInstanceAs (Decidable (directive.last.RunsOn _))

end Directive

/-- What a comment says: an introduction and directives. -/
structure Outline where
  /-- The text before the first directive. -/
  intro : List Char
  /-- The introduction holds no directive. -/
  unmarked : ¬ marker <:+: intro
  /-- The directives. -/
  directives : List Directive

namespace Outline

/-- The comment that is printed for an outline. -/
def comment (outline : Outline) : String :=
  String.ofList (outline.intro ++ (outline.directives.map Directive.written).flatMap (marker ++ ·))

/-- What an outline says. -/
def pieces (outline : Outline) : List Piece :=
  Piece.ofProse outline.intro ++ outline.directives.flatMap Directive.pieces

/-- The names that the directives of an outline list. -/
def names (outline : Outline) : List Name :=
  outline.directives.flatMap Directive.names

end Outline

/-! ## The lines of a directive -/

/-- A directive whose first line ends in no comma is read as it stands. -/
theorem joinContinuations_eq_self {block : List Char}
    (ends : continues (Text.splitAt '\n' block).1 = false) : joinContinuations block = block := by
  have alone : absorb (Text.splitAt '\n' block).1 (Text.splitAt '\n' block).2 =
      ((Text.splitAt '\n' block).1, (Text.splitAt '\n' block).2) := by
    cases (Text.splitAt '\n' block).2 with
    | nil => rfl
    | cons next lines => rw [absorb, ends, if_neg Bool.false_ne_true]
  rw [joinContinuations, alone, Text.join_splitAt]

namespace Directive

/-- The names before the last, with their commas. -/
def front (directive : Directive) : List Char :=
  directive.earlier.flatMap fun name => name.listed ++ [',', ' ']

theorem written_eq (directive : Directive) :
    directive.written = directive.front ++ directive.last.listed ++ directive.prose := by
  rw [written, names, List.map_append, List.map_singleton, Text.join_concat, List.flatMap_map,
    front]

theorem newline_not_mem_list (directive : Directive) :
    '\n' ∉ directive.front ++ directive.last.listed := by
  rw [List.mem_append, front, List.mem_flatMap]
  rintro (⟨name, -, held⟩ | held)
  · rcases List.mem_append.mp held with held | held
    · exact name.newline_not_mem_listed held
    · exact absurd held (by decide)
  · exact directive.last.newline_not_mem_listed held

/-- The first line of a directive lists all of its names. -/
theorem fst_splitAt_written (directive : Directive) :
    (Text.splitAt '\n' directive.written).1 = directive.front ++ directive.last.listed := by
  have none_left : (Text.splitAt '\n' directive.prose).1 = [] := by
    cases shape : directive.prose with
    | nil => rfl
    | cons c more =>
        obtain rfl := directive.fills_line c (by rw [shape]; rfl)
        rw [Text.splitAt_cons_self]
  rw [written_eq, Text.splitAt_append directive.newline_not_mem_list, none_left, List.append_nil]

theorem joinContinuations_written (directive : Directive) :
    joinContinuations directive.written = directive.written := by
  apply joinContinuations_eq_self
  obtain ⟨init, last, shape, -, no_comma⟩ := directive.last.listed_eq_concat
  rw [fst_splitAt_written, continues, Name.trimRight_append_listed, shape, ← List.append_assoc,
    List.getLast?_concat]
  simpa using no_comma

theorem not_marker_infix_written (directive : Directive) : ¬ marker <:+: directive.written := by
  rw [written_eq]
  exact fun held => directive.unmarked
    ((Text.infix_append_of_not_mem directive.newline_not_mem_list).mp held)

end Directive

/-! ## Lists of names -/

namespace Piece

/-- The pieces of a list of names and the prose after it. -/
def ofList (text : List Char) : List Piece :=
  ofParts ((Text.splitAt ',' text).1 :: (Text.splitAt ',' text).2)

theorem ofList_eq (text : List Char) : ofList text =
    (entryName? (Text.trim (Text.splitAt ',' text).1)).elim (ofTail text) fun name =>
      mention (String.ofList name) :: ofParts (Text.splitAt ',' text).2 := by
  rw [ofList, ofParts, Text.join_splitAt]
  cases entryName? (Text.trim (Text.splitAt ',' text).1) <;> rfl

theorem ofList_of_isAllBlank {lead : List Char} (blank : Text.isAllBlank lead = true)
    (text : List Char) : ofList (lead ++ text) = ofList text := by
  have no_comma : ',' ∉ lead := Text.not_mem_of_isAllBlank (by decide) blank
  have same_tail : ofTail (lead ++ text) = ofTail text := by
    rw [ofTail, ofTail, Text.trimLeft_append_of_isAllBlank blank]
  have same_part : Text.trim (lead ++ (Text.splitAt ',' text).1) =
      Text.trim (Text.splitAt ',' text).1 := by
    rw [Text.trim, Text.trim, Text.trimLeft_append_of_isAllBlank blank]
  rw [ofList_eq, ofList_eq, Text.splitAt_append no_comma, same_part, same_tail]

/-- A name before a comma is read. -/
theorem ofList_name (name : Name) (rest : List Char) :
    ofList (name.listed ++ ',' :: rest) = name.mention :: ofList rest := by
  have alone : Text.trim name.listed = name.listed := by
    simpa using name.trim_listed_append []
  rw [ofList, Text.splitAt_append name.comma_not_mem_listed, Text.splitAt_cons_self,
    List.append_nil, ofParts, alone, name.entryName?_listed]
  rfl

theorem ofList_names (names : List Name) (rest : List Char) :
    ofList (names.flatMap (fun name => name.listed ++ [',', ' ']) ++ rest) =
      names.map Name.mention ++ ofList rest := by
  induction names with
  | nil => rfl
  | cons name names ih =>
      let others := names.flatMap (fun name => name.listed ++ [',', ' ']) ++ rest
      have led : ofList (' ' :: others) = ofList others :=
        ofList_of_isAllBlank (show Text.isAllBlank [' '] = true by decide) others
      have step := ofList_name name (' ' :: others)
      rw [led, ih] at step
      simpa using step

end Piece

/-! ## The last name -/

namespace Directive

/-- What is read at the last name: its part of the text up to a comma. -/
theorem trim_last_part (directive : Directive) :
    Text.trim (Text.splitAt ',' (directive.last.listed ++ directive.prose)).1 =
      directive.last.listed ++ directive.adjoining := by
  rw [Text.splitAt_append directive.last.comma_not_mem_listed, Text.fst_splitAt,
    Name.trim_listed_append, adjoining]

/-- Where nothing adjoins the last name, there is neither prose nor a comma. -/
theorem blank_of_adjoining_eq_nil (directive : Directive) (alone : directive.adjoining = []) :
    Text.isAllBlank directive.prose = true ∧ (Text.splitAt ',' directive.prose).2 = [] := by
  have blank : Text.isAllBlank directive.prose = true :=
    Text.isAllBlank_of_takeWhile (by decide) (Text.trimRight_eq_nil_iff.mp alone)
      directive.ends_list
  have no_comma : ',' ∉ directive.prose := Text.not_mem_of_isAllBlank (by decide) blank
  have parts := Text.splitAt_append no_comma []
  rw [List.append_nil] at parts
  exact ⟨blank, by rw [parts]; rfl⟩

theorem head?_adjoining (directive : Directive) (some_text : directive.adjoining ≠ []) :
    directive.adjoining.head? = some '\n' := by
  obtain ⟨c, more, shape⟩ := List.exists_cons_of_ne_nil some_text
  have begins : c :: more <+: directive.prose := by
    rw [← shape]
    exact (Text.trimRight_prefix _).trans (List.takeWhile_prefix _)
  obtain ⟨rest, whole⟩ := begins
  rw [shape, directive.fills_line c (by rw [← whole]; rfl)]
  rfl

theorem entryName?_last_part (directive : Directive) (some_text : directive.adjoining ≠ []) :
    entryName? (directive.last.listed ++ directive.adjoining) =
      if directive.RunsOn then
        some (directive.last.text ++ ')' :: directive.adjoining.dropLast)
      else none :=
  Name.entryName?_listed_append _ (directive.head?_adjoining some_text)

/-- The last name and the prose after it, where the name does not run on. -/
theorem ofList_last (directive : Directive) (stops : ¬ directive.RunsOn) :
    Piece.ofList (directive.last.listed ++ directive.prose) =
      directive.last.mention :: Piece.ofProse directive.prose := by
  rw [Piece.ofList_eq, trim_last_part]
  by_cases alone : directive.adjoining = []
  · obtain ⟨blank, no_parts⟩ := directive.blank_of_adjoining_eq_nil alone
    rw [alone, List.append_nil, Name.entryName?_listed, Piece.ofProse, if_pos blank,
      Text.splitAt_append directive.last.comma_not_mem_listed, no_parts]
    rfl
  · rw [entryName?_last_part _ alone, if_neg stops]
    have word : Text.firstWord (directive.last.listed ++ directive.prose) =
        directive.last.listed := by
      apply Text.firstWord_append fun c held => (directive.last.plain_listed c held).1
      intro c first
      rw [directive.fills_line c first]
      decide
    simp only [Option.elim_none, Piece.ofTail, Name.trimLeft_listed_append, word,
      Name.entryName?_listed, List.drop_left]
    rfl

/-- The last name where it runs on: the prose up to its closing parenthesis is read as a part of
the name. -/
theorem ofList_last_of_runsOn (directive : Directive) (runs : directive.RunsOn) :
    ∃ name rest, name ≠ directive.last.mention ∧
      Piece.ofList (directive.last.listed ++ directive.prose) = name :: rest := by
  have some_text : directive.adjoining ≠ [] := by
    intro alone
    have ends : directive.adjoining.getLast? = some ')' := runs.2.1
    rw [alone] at ends
    cases ends
  rw [Piece.ofList_eq, trim_last_part, entryName?_last_part _ some_text, if_pos runs]
  refine ⟨_, _, fun same => ?_, rfl⟩
  rw [Name.mention, Piece.mention.injEq, String.ofList_inj] at same
  simp at same

/-! ## Whole directives -/

theorem pieces_eq (directive : Directive) : directive.pieces =
    directive.earlier.map Name.mention
      ++ directive.last.mention :: Piece.ofProse directive.prose := by
  rw [pieces, names, List.map_append, List.map_singleton, List.append_assoc,
    List.singleton_append]

theorem ofDirective_written (directive : Directive) : Piece.ofDirective directive.written =
    directive.earlier.map Name.mention
      ++ Piece.ofList (directive.last.listed ++ directive.prose) := by
  rw [Piece.ofDirective, joinContinuations_written]
  change Piece.ofList directive.written = _
  rw [written_eq, List.append_assoc, front, Piece.ofList_names]

/-- Printed directives read back if and only if none of them runs on. -/
theorem flatMap_ofDirective_eq_iff (directives : List Directive) :
    directives.flatMap (fun directive => Piece.ofDirective directive.written) =
        directives.flatMap pieces ↔
      ∀ directive ∈ directives, ¬ directive.RunsOn := by
  induction directives with
  | nil => simp
  | cons directive directives ih =>
      rw [List.flatMap_cons, List.flatMap_cons, List.forall_mem_cons, ofDirective_written,
        pieces_eq]
      by_cases runs : directive.RunsOn
      · obtain ⟨name, rest, different, read⟩ := directive.ofList_last_of_runsOn runs
        rw [read, List.append_assoc, List.append_assoc, List.append_right_inj, List.cons_append,
          List.cons_append, List.cons.injEq]
        exact iff_of_false (fun same => different same.1) fun none => none.1 runs
      · rw [directive.ofList_last runs, List.append_right_inj, ih]
        exact (and_iff_right runs).symm

end Directive

/-! ## Whole comments -/

namespace Piece

/-- The chunk of a piece whose entry is known. -/
def chunk (package : String) : Piece → Chunk
  | prose text => .prose text
  | mention name => .entry name package

theorem chunk_injective (package : String) : Function.Injective (chunk package) := by
  intro left right same
  cases left <;> cases right <;> simp_all [chunk]

end Piece

theorem resolve_eq_ok_iff {known : String → Bool} {package module : String} {piece : Piece}
    {chunk : Chunk} : resolve known package module piece = .ok chunk ↔
      (∀ name, piece = .mention name → known name = true) ∧ piece.chunk package = chunk := by
  cases piece with
  | prose text => simp [resolve, Piece.chunk]
  | mention name =>
      rw [resolve]
      cases holds : known name <;> simp [Piece.chunk, holds]

/-- Pieces resolve if and only if every name in them is known, each to its own chunk. -/
theorem resolveAll_eq_ok_iff {known : String → Bool} {package module : String}
    {pieces : List Piece} {found : List Chunk} :
    resolveAll known package module pieces = .ok found ↔
      (∀ name, .mention name ∈ pieces → known name = true)
        ∧ pieces.map (Piece.chunk package) = found := by
  induction pieces generalizing found with
  | nil => simp [resolveAll]
  | cons piece pieces ih =>
      have step : resolveAll known package module (piece :: pieces) = .ok found ↔
          ∃ chunk rest, resolve known package module piece = .ok chunk ∧
            resolveAll known package module pieces = .ok rest ∧ chunk :: rest = found := by
        rw [resolveAll]
        cases resolve known package module piece with
        | error error => simp
        | ok chunk => cases resolveAll known package module pieces <;> simp
      simp only [step, resolve_eq_ok_iff, ih, List.mem_cons, List.map_cons]
      constructor
      · rintro ⟨chunk, rest, ⟨this, rfl⟩, ⟨others, rfl⟩, rfl⟩
        exact ⟨fun name held => held.elim (fun same => this name same.symm) (others name), rfl⟩
      · rintro ⟨all, rfl⟩
        exact ⟨_, _, ⟨fun name same => all name (.inl same.symm), rfl⟩,
          ⟨fun name held => all name (.inr held), rfl⟩, rfl⟩

namespace Outline

theorem ofComment_comment (outline : Outline) : Piece.ofComment outline.comment =
    Piece.ofProse outline.intro
      ++ outline.directives.flatMap (fun directive => Piece.ofDirective directive.written) := by
  have blocks := Text.splitOn_flatMap (show marker = '\n' :: "@docs ".toList by decide +kernel)
    (by decide +kernel) marker_ne_nil outline.intro (outline.directives.map Directive.written)
    outline.unmarked (List.forall_mem_map.mpr fun directive _ =>
      directive.not_marker_infix_written)
  rw [Piece.ofComment, comment, String.toList_ofList, blocks, List.flatMap_map]

/-- What a comment printed from an outline reads as is what the outline says if and only if no
directive runs on. -/
theorem ofComment_comment_eq_iff (outline : Outline) :
    Piece.ofComment outline.comment = outline.pieces ↔
      ∀ directive ∈ outline.directives, ¬ directive.RunsOn := by
  rw [ofComment_comment, pieces, List.append_right_inj, Directive.flatMap_ofDirective_eq_iff]

/-- The page of a module whose comment says what the outline says. -/
def page (outline : Outline) (package : String) : List Chunk :=
  outline.pieces.map (Piece.chunk package)

theorem mention_mem_pieces {outline : Outline} {name : String}
    (listed : .mention name ∈ outline.pieces) :
    ∃ entry ∈ outline.names, String.ofList entry.text = name := by
  have not_prose : ∀ text, Piece.mention name ∉ Piece.ofProse text := by
    intro text held
    rw [Piece.ofProse] at held
    split at held <;> simp at held
  rw [pieces, List.mem_append, List.mem_flatMap] at listed
  obtain ⟨directive, among, listed⟩ := listed.resolve_left (not_prose _)
  rw [Directive.pieces, List.mem_append, List.mem_map] at listed
  obtain ⟨entry, held, same⟩ := listed.resolve_right (not_prose _)
  exact ⟨entry, List.mem_flatMap.mpr ⟨directive, among, held⟩, Piece.mention.inj same⟩

/-- A comment printed from an outline whose names are all known becomes the page of the outline if
and only if no directive runs on. -/
theorem chunks_comment (outline : Outline) (known : String → Bool) (package module : String)
    (lists : ∀ name ∈ outline.names, known (String.ofList name.text) = true) :
    chunks known package module outline.comment = .ok (outline.page package) ↔
      ∀ directive ∈ outline.directives, ¬ directive.RunsOn := by
  rw [chunks, resolveAll_eq_ok_iff, page,
    List.map_inj_right fun _ _ same => Piece.chunk_injective package same,
    ofComment_comment_eq_iff]
  refine and_iff_right_of_imp fun stops name listed => ?_
  rw [outline.ofComment_comment_eq_iff.mpr stops] at listed
  obtain ⟨entry, among, rfl⟩ := mention_mem_pieces listed
  exact lists entry among

/-- An outline whose last name is an operator, with letters in the prose that adjoins it. -/
def operators : Outline where
  intro := "Operators.".toList
  unmarked := by
    rw [← Text.occurs_iff]
    decide +kernel
  directives :=
    [{ earlier := [.word ['m', 'a', 'p'] (by decide), .operator [':', ':'] (by decide)]
       last := .operator ['|', '>'] (by decide)
       prose := "\n\nSee (map), and (::).".toList
       fills_line := by
         rintro c ⟨⟩
         rfl
       ends_list := by decide +kernel
       unmarked := by
         rw [← Text.occurs_iff]
         decide +kernel }]

theorem chunks_comment_operators :
    (∀ name ∈ operators.names, ["map", "::", "|>"].contains (String.ofList name.text) = true) ∧
      chunks ["map", "::", "|>"].contains "elm/core" "" operators.comment =
        .ok [.prose "Operators.", .entry "map" "elm/core", .entry "::" "elm/core",
          .entry "|>" "elm/core", .prose "\n\nSee (map), and (::)."] := by
  have lists : ∀ name ∈ operators.names,
      ["map", "::", "|>"].contains (String.ofList name.text) = true := by decide +kernel
  have stops : ∀ directive ∈ operators.directives, ¬ directive.RunsOn := by decide +kernel
  have read := (chunks_comment operators _ "elm/core" "" lists).mpr stops
  exact ⟨lists, read.trans (congrArg Except.ok (by decide +kernel))⟩

/-- An outline whose last name is an operator, with prose in parentheses that has no letter of
ASCII. -/
def bracketed : Outline where
  intro := []
  unmarked := by
    rw [← Text.occurs_iff]
    decide +kernel
  directives :=
    [{ earlier := []
       last := .operator ['+'] (by decide)
       prose := "\n(да)".toList
       fills_line := by
         rintro c ⟨⟩
         rfl
       ends_list := by decide +kernel
       unmarked := by
         rw [← Text.occurs_iff]
         decide +kernel }]

/-- Not every printed comment reads back: the operator of this outline is read up to the closing
parenthesis of the prose, and no entry has that name. -/
theorem chunks_comment_bracketed :
    ¬ ∀ (outline : Outline) (known : String → Bool) (package module : String),
      (∀ name ∈ outline.names, known (String.ofList name.text) = true) →
        chunks known package module outline.comment = .ok (outline.page package) := by
  intro always
  have read := always bracketed ["+"].contains "" "" (by decide +kernel)
  have pieces : Piece.ofComment bracketed.comment = [.mention "+)\n(да"] := by
    rw [ofComment_comment]
    decide +kernel
  have unknown : ["+"].contains "+)\n(да" = false := by decide +kernel
  rw [chunks, pieces, resolveAll, resolve, unknown] at read
  cases read

end Outline
end Docs
end SignatureSearch
