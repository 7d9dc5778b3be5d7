import SignatureSearch.Proofs.Docs.Outline

/-!
# Names looked up

A comment can be read in one pass that looks up each name as soon as it has been read and stops at
the first name that is not known.  Which names are read does not depend on the names that are known,
so this comes to the same as reading the whole comment first.  The main statement is that the names
of a comment and its page are settled by the comment, and the names that are known only decide
between the page and the first of the others.
-/

namespace SignatureSearch
namespace Docs

/-- The name that a piece mentions. -/
def Piece.name? : Piece → Option String
  | prose _ => none
  | mention name => some name

/-- The name and the package of a chunk that is an entry. -/
def Chunk.entry? : Chunk → Option (String × String)
  | prose _ => none
  | entry name package => some (name, package)

/-- The names that a comment lists, in order. -/
def listedNames (comment : String) : List String :=
  (Piece.ofComment comment).filterMap Piece.name?

/-- The page of a comment all of whose names are known. -/
def pageOf (comment package : String) : List Chunk :=
  (Piece.ofComment comment).map (Piece.chunk package)

/-- A text as prose of a page, left out when it is blank. -/
def proseOf (text : List Char) : List Chunk :=
  if Text.isAllBlank text then [] else [.prose (String.ofList text)]

section OnePass

variable (known : String → Bool) (package module : String)

/-! ## Reading in one pass -/

/-- A name that has been read is looked up. -/
def lookUp (name : List Char) : Except Corruption Chunk :=
  resolve known package module (.mention (String.ofList name))

/-- The part of a page that stands after the last comma of a list of names. -/
def readTail (text : List Char) : Except Corruption (List Chunk) :=
  let tail := Text.trimLeft text
  let word := Text.firstWord tail
  match entryName? word with
  | some name => do
      let found ← lookUp known package module name
      return found :: proseOf (tail.drop word.length)
  | none => return proseOf tail

/-- The part of a page that a list of names and the prose after it are, given the parts between its
commas. -/
def readParts : List (List Char) → Except Corruption (List Chunk)
  | [] => return []
  | part :: parts =>
      match entryName? (Text.trim part) with
      | some name => do
          let found ← lookUp known package module name
          let rest ← readParts parts
          return found :: rest
      | none => readTail known package module (Text.join [','] (part :: parts))

/-- The part of a page that a directive is. -/
def readDirective (block : List Char) : Except Corruption (List Chunk) :=
  let parts := Text.splitAt ',' (joinContinuations block)
  readParts known package module (parts.1 :: parts.2)

/-- The page of a comment, read in one pass. -/
def readComment (comment : String) : Except Corruption (List Chunk) := do
  let blocks := Text.splitOn marker marker_ne_nil comment.toList
  let pages ← blocks.2.mapM (readDirective known package module)
  return proseOf blocks.1 ++ pages.flatten

/-! ## One pass and two -/

theorem resolveAll_cons (piece : Piece) (pieces : List Piece) :
    resolveAll known package module (piece :: pieces) = do
      let found ← resolve known package module piece
      let rest ← resolveAll known package module pieces
      return found :: rest := by
  rw [resolveAll]
  cases resolve known package module piece with
  | error corruption => rfl
  | ok found => cases resolveAll known package module pieces <;> rfl

theorem resolveAll_append (front back : List Piece) :
    resolveAll known package module (front ++ back) = do
      let first ← resolveAll known package module front
      let rest ← resolveAll known package module back
      return first ++ rest := by
  induction front with
  | nil => cases whole : resolveAll known package module back <;> simp [resolveAll, whole] <;> rfl
  | cons piece front ih =>
      rw [List.cons_append, resolveAll_cons, resolveAll_cons, ih]
      simp

theorem resolveAll_ofProse (text : List Char) :
    resolveAll known package module (Piece.ofProse text) = .ok (proseOf text) := by
  rw [Piece.ofProse, proseOf]
  split <;> rfl

theorem readTail_eq (text : List Char) :
    readTail known package module text = resolveAll known package module (Piece.ofTail text) := by
  cases named : entryName? (Text.firstWord (Text.trimLeft text)) with
  | none =>
      simp only [readTail, Piece.ofTail, named, resolveAll_ofProse]
      rfl
  | some name =>
      simp only [readTail, Piece.ofTail, named, resolveAll_cons, resolveAll_ofProse]
      rfl

theorem readParts_eq (parts : List (List Char)) :
    readParts known package module parts =
      resolveAll known package module (Piece.ofParts parts) := by
  induction parts with
  | nil => rfl
  | cons part parts ih =>
      unfold readParts Piece.ofParts
      cases entryName? (Text.trim part) with
      | none => exact readTail_eq known package module _
      | some name =>
          rw [resolveAll_cons, ← ih]
          rfl

theorem mapM_readDirective (blocks : List (List Char)) :
    List.flatten <$> blocks.mapM (readDirective known package module) =
      resolveAll known package module (blocks.flatMap Piece.ofDirective) := by
  induction blocks with
  | nil => rfl
  | cons block blocks ih =>
      have first : readDirective known package module block =
          resolveAll known package module (Piece.ofDirective block) :=
        readParts_eq known package module _
      rw [List.flatMap_cons, resolveAll_append, ← ih, ← first, List.mapM_cons]
      simp

/-- Looking up the names as they are read comes to the same as reading the whole comment first. -/
theorem readComment_eq (comment : String) :
    readComment known package module comment = chunks known package module comment := by
  rw [chunks, Piece.ofComment, resolveAll_append, resolveAll_ofProse, ← mapM_readDirective,
    readComment]
  simp
  rfl

/-- Pieces become a page unless one of their names is not known, and the first such name is what is
amiss. -/
theorem resolveAll_eq (pieces : List Piece) :
    resolveAll known package module pieces =
      match (pieces.filterMap Piece.name?).find? fun name => !known name with
      | none => .ok (pieces.map (Piece.chunk package))
      | some name => .error { entry := name, module } := by
  induction pieces with
  | nil => rfl
  | cons piece pieces ih =>
      rw [resolveAll_cons, ih]
      cases piece with
      | prose text =>
          have names : (Piece.prose text :: pieces).filterMap Piece.name? =
              pieces.filterMap Piece.name? := rfl
          rw [names]
          cases (pieces.filterMap Piece.name?).find? fun name => !known name <;> rfl
      | mention name =>
          have names : (Piece.mention name :: pieces).filterMap Piece.name? =
              name :: pieces.filterMap Piece.name? := rfl
          rw [names, List.find?_cons, resolve]
          cases known name with
          | false => rfl
          | true => cases (pieces.filterMap Piece.name?).find? fun name => !known name <;> rfl

end OnePass

/-! ## What the known names decide -/

theorem entries_pageOf (comment package : String) :
    (pageOf comment package).filterMap Chunk.entry? =
      (listedNames comment).map fun name => (name, package) := by
  rw [pageOf, listedNames, List.filterMap_map, List.map_filterMap]
  congr 1
  funext piece
  cases piece <;> rfl

/-- The names that a comment lists and its page do not depend on what is known.  If all the names
are known the comment becomes its page, and if not, the first that is unknown is what is amiss; so
it is when the names are looked up one by one, and more names known change no page. -/
theorem chunks_settled (comment : String) :
    ∃ (names : List String) (page : String → List Chunk),
      (∀ package, (page package).filterMap Chunk.entry? = names.map fun name => (name, package)) ∧
      (∀ known package module,
        chunks known package module comment =
          match names.find? fun name => !known name with
          | none => .ok (page package)
          | some name => .error { entry := name, module }) ∧
      (∀ known package module,
        readComment known package module comment = chunks known package module comment) ∧
      ∀ (known more : String → Bool) (package module other : String) (found : List Chunk),
        (∀ name, known name = true → more name = true) →
          chunks known package module comment = .ok found →
            chunks more package other comment = .ok found := by
  refine ⟨listedNames comment, pageOf comment, entries_pageOf comment,
    fun known package module => resolveAll_eq known package module _,
    fun known package module => readComment_eq known package module comment,
    fun known more package module other found grows succeeds => ?_⟩
  obtain ⟨all, same⟩ := resolveAll_eq_ok_iff.mp succeeds
  exact resolveAll_eq_ok_iff.mpr ⟨fun name listed => grows name (all name listed), same⟩

end Docs
end SignatureSearch
