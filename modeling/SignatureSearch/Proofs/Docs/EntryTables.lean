import SignatureSearch.Proofs.Docs.Names
import SignatureSearch.Proofs.Docs.Payloads
import SignatureSearch.Proofs.Signature.RoundTrip
import SignatureSearch.Proofs.Table

/-!
# The entries that a module is loaded with

The entries of a module are put into its table under the names by which they are known: aliases and
unions under their own, values and operators under theirs without the parentheses around it.  The
entry of a value or operator is its signature and its comment; for an alias and a union the comment
stands beneath the declaration, which is put together from its parts.  A comment lists names of its own spelling, and the main statement is that the two spellings meet:
what a comment can call a value or operator is a name of the table.
-/

namespace SignatureSearch
namespace Docs

/-! ## Names -/

/-- The name by which a value or operator is known: without the parentheses around it, where there
are any. -/
inductive KnownAs (name : String) : String → Prop
  /-- There are parentheses around the name. -/
  | enclosed {inner : String} (shape : name = "(" ++ inner ++ ")") : KnownAs name inner
  /-- There are none. -/
  | bare (shape : ∀ inner, name ≠ "(" ++ inner ++ ")") : KnownAs name name

/-- A name is written in signs other than parentheses, blanks, letters and digits of ASCII. -/
def IsSymbolic (name : String) : Prop :=
  name ≠ "" ∧ ∀ c ∈ name.toList,
    c ≠ '(' ∧ c ≠ ')' ∧ Text.isBlank c = false ∧ c.isAlphanum = false

/-- A text that begins with an opening and ends with a closing parenthesis has them around it. -/
theorem exists_enclosed_iff {text : List Char} :
    text.head? = some '(' ∧ text.getLast? = some ')' ↔ ∃ inner, text = '(' :: (inner ++ [')']) := by
  constructor
  · rintro ⟨opens, closes⟩
    obtain ⟨rest, rfl⟩ := List.head?_eq_some_iff.mp opens
    rcases List.eq_nil_or_concat rest with rfl | ⟨inner, last, rfl⟩
    · simp at closes
    · rw [List.concat_eq_append, ← List.cons_append, List.getLast?_concat,
        Option.some.injEq] at closes
      exact ⟨inner, by rw [List.concat_eq_append, closes]⟩
  · rintro ⟨inner, rfl⟩
    exact ⟨rfl, by rw [← List.cons_append, List.getLast?_concat]⟩

namespace ValueDecl

variable {decl : ValueDecl}

theorem key_of_enclosed {inner : List Char} (shape : decl.name.toList = '(' :: (inner ++ [')'])) :
    decl.key = String.ofList inner := by
  rw [key, if_pos (exists_enclosed_iff.mpr ⟨inner, shape⟩), shape, List.drop_succ_cons,
    List.drop_zero, List.dropLast_concat]

theorem key_of_bare (shape : ∀ inner, decl.name.toList ≠ '(' :: (inner ++ [')'])) :
    decl.key = decl.name := by
  rw [key, if_neg fun enclosed => (exists_enclosed_iff.mp enclosed).elim shape]

theorem knownAs_key (decl : ValueDecl) : KnownAs decl.name decl.key := by
  by_cases enclosed : ∃ inner, decl.name.toList = '(' :: (inner ++ [')'])
  · obtain ⟨inner, shape⟩ := enclosed
    rw [key_of_enclosed shape]
    exact .enclosed (String.toList_inj.mp (by rw [shape]; simp))
  · rw [not_exists] at enclosed
    rw [key_of_bare enclosed]
    refine .bare fun inner shape => enclosed inner.toList ?_
    rw [shape]
    simp

/-- What a comment calls a value when it lists it as the payload spells it. -/
theorem key_of_entryName? {name : List Char} (listed : entryName? decl.name.toList = some name) :
    decl.key = String.ofList name := by
  rw [entryName?] at listed
  split at listed
  · rename_i word
    obtain rfl := Option.some.inj listed
    rw [key_of_bare, String.ofList_toList]
    intro inner shape
    exact (plain_of_isIdentifier word '(' (by rw [shape]; exact List.mem_cons_self)).2.2 rfl
  · split at listed
    · rename_i operator
      obtain rfl := Option.some.inj listed
      simp only [isOperator, Bool.and_eq_true, beq_iff_eq] at operator
      rw [key, if_pos ⟨operator.1.1.2, operator.1.2⟩]
    · cases listed

/-- What a comment calls an operator when it lists it in parentheses. -/
theorem entryName?_of_symbolic (symbolic : IsSymbolic decl.name) :
    entryName? ('(' :: (decl.name.toList ++ [')'])) = some decl.name.toList ∧
      decl.key = decl.name := by
  obtain ⟨given, signs⟩ := symbolic
  constructor
  · rw [Name.entryName?_enclosed, if_pos]
    refine ⟨fun none => given (String.toList_inj.mp none), rfl, ?_⟩
    exact List.any_eq_false.mpr fun c held => by simp [(signs c held).2.2.2]
  · refine key_of_bare fun inner shape => ?_
    exact (signs '(' (by rw [shape]; exact List.mem_cons_self)).1 rfl

end ValueDecl

/-! ## Entries -/

open Signature (following toList_intercalate_cons)

/-- A comment as it stands beneath a declaration: after a blank line, where there is any. -/
def beneath (comment : String) : List Char :=
  if comment = "" then [] else '\n' :: '\n' :: comment.toList

/-- The constructors of a union as they come after its name. -/
def constructorsText : List (String × List String) → List Char
  | [] => []
  | case :: cases =>
      " = ".toList ++ (caseText case).toList ++ following " | ".toList (cases.map caseText)

theorem toList_declarationDoc (header comment : String) :
    (declarationDoc header comment).toList = header.toList ++ beneath comment := by
  rw [declarationDoc, beneath]
  split <;> simp

/-- An entry is that of a value or operator. -/
structure ValueDecl.Gives (decl : ValueDecl) (entry : Entry) : Prop where
  /-- Its signature is the one declared. -/
  signature : entry.signature = decl.type
  /-- Its text is the comment. -/
  doc : entry.doc = decl.comment

/-- An entry is that of an alias. -/
structure AliasDecl.Gives (decl : AliasDecl) (entry : Entry) : Prop where
  /-- Its signature is the type that the alias stands for. -/
  signature : entry.signature = decl.type
  /-- Its text is the declaration with the comment beneath it. -/
  doc : entry.doc.toList =
    "alias".toList ++ following [' '] (decl.name :: decl.args) ++ " = ".toList
      ++ decl.type.toList ++ beneath decl.comment

/-- An entry is that of a union. -/
structure UnionDecl.Gives (decl : UnionDecl) (entry : Entry) : Prop where
  /-- Its signature is the name of the union with its parameters. -/
  signature : entry.signature.toList = decl.name.toList ++ following [' '] decl.args
  /-- Its text is the declaration with the comment beneath it. -/
  doc : entry.doc.toList =
    "type".toList ++ following [' '] (decl.name :: decl.args) ++ constructorsText decl.cases
      ++ beneath decl.comment

theorem ValueDecl.gives_entry (decl : ValueDecl) : decl.Gives decl.entry :=
  ⟨rfl, rfl⟩

theorem AliasDecl.gives_entry (decl : AliasDecl) : decl.Gives decl.entry where
  signature := rfl
  doc := by
    rw [entry, toList_declarationDoc, List.cons_append, toList_intercalate_cons]
    simp [following]

theorem UnionDecl.toList_signature (decl : UnionDecl) :
    decl.signature.toList = decl.name.toList ++ following [' '] decl.args := by
  rw [UnionDecl.signature, toList_intercalate_cons]
  rfl

theorem UnionDecl.toList_header (decl : UnionDecl) :
    decl.header.toList = "type ".toList ++ decl.signature.toList ++ constructorsText decl.cases := by
  rw [header]
  split
  · rename_i none
    simp [none, constructorsText]
  · rename_i cases given
    obtain ⟨case, rest, shape⟩ := List.exists_cons_of_ne_nil given
    rw [shape, constructorsText, String.toList_append, List.map_cons, toList_intercalate_cons]
    simp

theorem UnionDecl.gives_entry (decl : UnionDecl) : decl.Gives decl.entry where
  signature := decl.toList_signature
  doc := by
    rw [entry, toList_declarationDoc, toList_header, toList_signature]
    simp [following]

/-! ## Tables -/

namespace ModuleDecl

/-- Rows are the entries of a module under the names by which they are known: those of its aliases,
of its unions, of its values and of its operators. -/
def HasRows (decl : ModuleDecl) (rows : List (String × Entry)) : Prop :=
  ∃ aliases unions values, rows = aliases ++ unions ++ values ∧
    List.Forall₂ (fun decl row => row.1 = decl.name ∧ decl.Gives row.2) decl.aliases aliases ∧
    List.Forall₂ (fun decl row => row.1 = decl.name ∧ decl.Gives row.2) decl.unions unions ∧
    List.Forall₂ (fun decl row => KnownAs decl.name row.1 ∧ decl.Gives row.2)
      (decl.values ++ decl.binops) values

/-- A table holds the entries of a module. -/
structure Tabulates (decl : ModuleDecl) (table : Table Entry) : Prop where
  /-- The names of the table are those of the entries in the order of their first appearance, and
  each holds the last entry known by it. -/
  rows : ∃ rows, decl.HasRows rows ∧ table.keys = (rows.map Prod.fst).eraseDups ∧
    ∀ key entry, table.get? key = some entry ↔
      ∃ before after, rows = before ++ (key, entry) :: after ∧ key ∉ after.map Prod.fst
  /-- A value or operator whose name a comment can list as it is spelled is found by that. -/
  asSpelled : ∀ value ∈ decl.values ++ decl.binops, ∀ name,
    entryName? value.name.toList = some name → String.ofList name ∈ table.keys
  /-- A value or operator whose name is written in signs is found by its name in parentheses. -/
  inParentheses : ∀ value ∈ decl.values ++ decl.binops, IsSymbolic value.name →
    ∃ name, entryName? ('(' :: (value.name.toList ++ [')'])) = some name ∧
      String.ofList name ∈ table.keys

variable {decl : ModuleDecl}

theorem hasRows_rows (decl : ModuleDecl) : decl.HasRows decl.rows := by
  refine ⟨_, _, _, rfl, ?_, ?_, ?_⟩
  · rw [List.forall₂_map_right_iff, List.forall₂_same]
    exact fun decl _ => ⟨rfl, decl.gives_entry⟩
  · rw [List.forall₂_map_right_iff, List.forall₂_same]
    exact fun decl _ => ⟨rfl, decl.gives_entry⟩
  · rw [List.forall₂_map_right_iff, List.forall₂_same]
    exact fun value _ => ⟨value.knownAs_key, value.gives_entry⟩

theorem key_mem_keys {value : ValueDecl} (listed : value ∈ decl.values ++ decl.binops) :
    value.key ∈ (Table.ofRows decl.rows).keys := by
  rw [Table.keys_ofRows, List.mem_eraseDups]
  exact List.mem_map.mpr
    ⟨_, List.mem_append_right _ (List.mem_map.mpr ⟨value, listed, rfl⟩), rfl⟩

theorem tabulates_ofRows (decl : ModuleDecl) : decl.Tabulates (Table.ofRows decl.rows) where
  rows := ⟨decl.rows, decl.hasRows_rows, Table.keys_ofRows decl.rows,
    fun _ _ => Table.get?_ofRows_eq_some_iff⟩
  asSpelled value listed name spelled := by
    rw [← ValueDecl.key_of_entryName? spelled]
    exact key_mem_keys listed
  inParentheses value listed symbolic := by
    obtain ⟨spelled, same⟩ := ValueDecl.entryName?_of_symbolic symbolic
    refine ⟨_, spelled, ?_⟩
    rw [String.ofList_toList, ← same]
    exact key_mem_keys listed

end ModuleDecl

/-- **The entry tables of a payload.**  Modules that are declared with names load with tables of
their entries: under the names by which these are known, each name once and where it first appears,
with the last entry known by it.  What a comment can call a value or operator, by its spelling or by
its signs in parentheses, is a name of the table. -/
theorem load_tabulates {payload : Payload} {decls : List ModuleDecl} (laid : payload.LaysOut decls)
    (named : ∀ decl ∈ decls, decl.name ≠ "") :
    ∃ modules, payload.load = .ok modules ∧
      List.Forall₂ (fun decl docs => decl.Documents docs ∧ decl.Tabulates docs.entries)
        decls modules := by
  obtain ⟨modules, loaded, documents⟩ := Payload.load_of_named laid named
  refine ⟨modules, loaded, documents.imp fun decl docs same => ⟨same, ?_⟩⟩
  rw [same.entries]
  exact decl.tabulates_ofRows

/-- An operator that is listed among the values too, there in parentheses, is one entry, and a
comment finds it by its name in parentheses. -/
theorem load_tabulates_plus :
    let payload := Payload.text
      ("[\x7b\"name\":\"Math\",\"values\":[\x7b\"name\":\"(+)\",\"type\":\"Int\"\x7d]," ++
        "\"binops\":[\x7b\"name\":\"+\",\"type\":\"Float\"\x7d]\x7d]")
    let decl : ModuleDecl :=
      { name := "Math", comment := "", values := [⟨"(+)", "", "Int"⟩]
        binops := [⟨"+", "", "Float"⟩], aliases := [], unions := [] }
    (payload.LaysOut [decl] ∧ decl.name ≠ "") ∧
      ∃ docs, payload.load = .ok [docs] ∧ decl.Tabulates docs.entries ∧
        docs.entries.rows = [("+", ⟨"Float", ""⟩)] ∧ entryName? "(+)".toList = some ['+'] := by
  intro payload decl
  have laid : payload.LaysOut [decl] := by decide +kernel
  have named : decl.name ≠ "" := by decide
  obtain ⟨modules, loaded, tabulated⟩ := load_tabulates laid (List.forall_mem_singleton.mpr named)
  obtain ⟨docs, rest, ⟨documents, tabulates⟩, none, rfl⟩ := List.forall₂_cons_left_iff.mp tabulated
  rw [List.forall₂_nil_left_iff] at none
  subst none
  refine ⟨⟨laid, named⟩, docs, loaded, tabulates, ?_, by decide⟩
  rw [documents.entries]
  decide +kernel

end Docs
end SignatureSearch
