import SignatureSearch.Proofs.Signature.WellFormed
import SignatureSearch.Signature.Printer

/-!
# Writing and reading are inverse

The qualified text of a well-formed tree spells a word that the grammar derives for the tree, and so
it is read back as the same tree.  What the text of a part derives depends on where the part stands:
a parameter has to be an application and an argument an atom, and the parentheses are put exactly
where a part would be more than that.
-/

namespace SignatureSearch
namespace Signature

open Grammar
open Lexeme (continuesName)
open TypeExpr (WellFormed)

/-- A text spells a word that derives a value. -/
def Writes {α : Type} (derives : List Lexeme → α → Prop) (text : List Char) (value : α) : Prop :=
  ∃ word, Spells text word ∧ derives word value

/-- A text is parsed to the types that it writes. -/
theorem parse?_eq_ok_iff_writes {signature : String} {type : TypeExpr} :
    parse? signature = .ok type ↔ Writes DerivesType signature.toList type := by
  constructor
  · intro accepted
    obtain ⟨tokens, scanned, derives⟩ := parse?_eq_ok_iff.mp accepted
    exact ⟨_, spells_iff_scan.mpr ⟨tokens, scanned, rfl⟩, derives⟩
  · rintro ⟨word, spells, derives⟩
    exact parse?_of_spells spells derives

/-- Whatever a text spells, the separator before it adds its lexemes. -/
def Leads (separator : List Char) (mark : List Lexeme) : Prop :=
  ∀ {text : List Char} {word : List Lexeme}, Spells text word →
    Spells (separator ++ text) (mark ++ word)

theorem separated_cons_iff {c : Char} {text : List Char} :
    Separated (c :: text) ↔ continuesName c = false ∧ c ≠ '.' := by
  simp [Separated]

theorem leads_blank : Leads [' '] [] :=
  fun spells => .blank rfl spells

theorem leads_arrow : Leads [' ', '-', '>', ' '] [.arrow] :=
  fun spells => .blank rfl (.arrow (.blank rfl spells))

theorem leads_comma : Leads [',', ' '] [.comma] :=
  fun spells => .mark rfl (.blank rfl spells)

theorem Spells.group {text : List Char} {word : List Lexeme} (spells : Spells text word) :
    Spells ('(' :: (text ++ [')'])) (.openParen :: (word ++ [.closeParen])) := by
  have closed : Spells [')'] [.closeParen] := .mark rfl .nil
  exact .mark rfl (spells.append closed (separated_cons_iff.mpr (by decide)))

/-- Parentheses around what writes a type are an atom of the same type. -/
theorem writes_group {text : List Char} {type : TypeExpr} (writes : Writes DerivesType text type) :
    Writes DerivesAtom ('(' :: (text ++ [')'])) type := by
  obtain ⟨word, spells, derives⟩ := writes
  exact ⟨_, spells.group, .group derives⟩

/-! ## Texts one after another -/

/-- Texts with a separator before each. -/
def following (separator : List Char) (texts : List String) : List Char :=
  texts.flatMap fun text => separator ++ text.toList

theorem toList_intercalate_cons (separator text : String) (texts : List String) :
    (String.intercalate separator (text :: texts)).toList =
      text.toList ++ following separator.toList texts := by
  induction texts generalizing text with
  | nil => simp [following]
  | cons next texts ih =>
      rw [String.intercalate_cons_cons]
      simp [ih, following]

/-- Values are written one after another, each after a separator, when each of them is written. -/
theorem writes_following {α : Type} {each : List Lexeme → α → Prop}
    {every : List Lexeme → List α → Prop} {c : Char} {separator : List Char} {mark : List Lexeme}
    {text : α → String} (leads : Leads (c :: separator) mark)
    (separated : continuesName c = false ∧ c ≠ '.') (nil : every [] [])
    (cons : ∀ {front back : List Lexeme} {value : α} {values : List α}, each front value →
      every back values → every (mark ++ (front ++ back)) (value :: values))
    {values : List α} (written : ∀ value ∈ values, Writes each (text value).toList value) :
    Writes every (following (c :: separator) (values.map text)) values ∧
      Separated (following (c :: separator) (values.map text)) := by
  induction values with
  | nil => exact ⟨⟨[], .nil, nil⟩, by simp [following, Separated]⟩
  | cons value values ih =>
      obtain ⟨⟨front, first, derives⟩, others⟩ := List.forall_mem_cons.mp written
      obtain ⟨⟨back, rest, derivesRest⟩, ends⟩ := ih others
      have whole := leads (first.append rest ends)
      refine ⟨⟨mark ++ (front ++ back), ?_, cons derives derivesRest⟩, ?_⟩
      · simpa [following] using whole
      · exact separated_cons_iff.mpr separated

theorem writes_arrows {text : TypeExpr → String} {parts : List TypeExpr}
    (written : ∀ part ∈ parts, Writes DerivesApplication (text part).toList part) :
    Writes DerivesArrows (following " -> ".toList (parts.map text)) parts ∧
      Separated (following " -> ".toList (parts.map text)) :=
  writes_following leads_arrow (by decide) .nil .cons written

theorem writes_arguments {text : TypeExpr → String} {args : List TypeExpr}
    (written : ∀ arg ∈ args, Writes DerivesAtom (text arg).toList arg) :
    Writes DerivesArguments (following " ".toList (args.map text)) args ∧
      Separated (following " ".toList (args.map text)) :=
  writes_following leads_blank (by decide) .nil .cons written

theorem writes_elements {text : TypeExpr → String} {elements : List TypeExpr}
    (written : ∀ element ∈ elements, Writes DerivesType (text element).toList element) :
    Writes DerivesElements (following ", ".toList (elements.map text)) elements ∧
      Separated (following ", ".toList (elements.map text)) :=
  writes_following leads_comma (by decide) .nil .cons written

theorem writes_moreFields {text : String × TypeExpr → String} {fields : List (String × TypeExpr)}
    (written : ∀ field ∈ fields, Writes DerivesField (text field).toList field) :
    Writes DerivesMoreFields (following ", ".toList (fields.map text)) fields ∧
      Separated (following ", ".toList (fields.map text)) :=
  writes_following leads_comma (by decide) .nil .cons written

/-! ## Texts of parts -/

namespace TypeExpr

theorem paramTexts_eq_map {naming : Naming} (types : List TypeExpr) :
    paramTexts naming types =
      types.map fun type => parenthesized type.isFunction (type.text naming) := by
  induction types with
  | nil => rfl
  | cons type types ih => rw [paramTexts, ih, List.map_cons]

theorem argTexts_eq_map {naming : Naming} (types : List TypeExpr) :
    argTexts naming types =
      types.map fun type => parenthesized type.isCompound (type.text naming) := by
  induction types with
  | nil => rfl
  | cons type types ih => rw [argTexts, ih, List.map_cons]

theorem texts_eq_map {naming : Naming} (types : List TypeExpr) :
    texts naming types = types.map (text naming) := by
  induction types with
  | nil => rfl
  | cons type types ih => rw [texts, ih, List.map_cons]

theorem fieldTexts_eq_map {naming : Naming} (fields : List (String × TypeExpr)) :
    fieldTexts naming fields = fields.map fun field => field.1 ++ " : " ++ field.2.text naming := by
  induction fields with
  | nil => rfl
  | cons field fields ih => rw [fieldTexts, ih, List.map_cons]

/-- The qualified text of a type derives the type, as an application unless it is a function, and as
an atom unless it is a function or has arguments. -/
def Written (type : TypeExpr) : Prop :=
  Writes DerivesType (type.text .qualified).toList type ∧
    (type.isFunction = false → Writes DerivesApplication (type.text .qualified).toList type) ∧
    (type.isCompound = false → Writes DerivesAtom (type.text .qualified).toList type)

theorem written_of_atom {type : TypeExpr}
    (atom : Writes DerivesAtom (type.text .qualified).toList type) : Written type := by
  obtain ⟨word, spells, derives⟩ := atom
  exact ⟨⟨word, spells, .alone (.bare derives)⟩, fun _ => ⟨word, spells, .bare derives⟩,
    fun _ => ⟨word, spells, derives⟩⟩

theorem Written.group {type : TypeExpr} (written : Written type) :
    Writes DerivesAtom (parenthesized true (type.text .qualified)).toList type := by
  simpa [parenthesized] using writes_group written.1

theorem Written.param {type : TypeExpr} (written : Written type) :
    Writes DerivesApplication (parenthesized type.isFunction (type.text .qualified)).toList
      type := by
  cases shape : type.isFunction with
  | false => exact written.2.1 shape
  | true =>
      obtain ⟨word, spells, derives⟩ := written.group
      exact ⟨word, spells, .bare derives⟩

theorem Written.arg {type : TypeExpr} (written : Written type) :
    Writes DerivesAtom (parenthesized type.isCompound (type.text .qualified)).toList type := by
  cases shape : type.isCompound with
  | false => exact written.2.2 shape
  | true => exact written.group

theorem Written.field {label : String} {type : TypeExpr} (plain : IsVariable label)
    (written : Written type) :
    Writes DerivesField (label ++ " : " ++ type.text .qualified).toList (label, type) := by
  obtain ⟨⟨word, spells, derives⟩, -⟩ := written
  have name : Spells label.toList [.name label] := (IsPath.last plain.1).spells
  have colon : Spells (' ' :: ':' :: ' ' :: (type.text .qualified).toList) (.colon :: word) :=
    .blank rfl (.mark rfl (.blank rfl spells))
  refine ⟨.name label :: .colon :: word, ?_, .labelled plain.2 derives⟩
  simpa using name.append colon (separated_cons_iff.mpr (by decide))

/-! ## Texts of trees -/

theorem written_function {params : List TypeExpr} {result : TypeExpr} (nonempty : params ≠ [])
    (all : ∀ param ∈ params, Written param) (last : Written result)
    (flat : result.isFunction = false) : Written (.function params result) := by
  obtain ⟨first, more, rfl⟩ := List.exists_cons_of_ne_nil nonempty
  have ⟨head, others⟩ := List.forall_mem_cons.mp all
  obtain ⟨front, spells, derives⟩ := head.param
  -- The result is no function, so it is written as a parameter would be.
  have tail : ∀ part ∈ more ++ [result], Writes DerivesApplication
      (parenthesized part.isFunction (part.text .qualified)).toList part := by
    intro part member
    rcases List.mem_append.mp member with inner | ending
    · exact (others part inner).param
    · obtain rfl := List.mem_singleton.mp ending
      exact last.param
  obtain ⟨⟨back, rest, derivesRest⟩, ends⟩ := writes_arrows tail
  have whole : DerivesType (front ++ back) (.function (first :: more) result) := by
    have derived := DerivesType.function derives derivesRest
    cases result with
    | function _ _ => cases flat
    | _ => exact derived
  refine ⟨⟨front ++ back, ?_, whole⟩, by simp [isFunction], by simp [isCompound]⟩
  rw [text, paramTexts_eq_map, List.map_cons, List.cons_append, toList_intercalate_cons]
  simpa [flat, parenthesized] using spells.append rest ends

theorem written_var {name : String} (plain : IsVariable name) : Written (.var name) :=
  written_of_atom ⟨[.name name], (IsPath.last plain.1).spells, .variable plain.2⟩

theorem written_unit : Written .unit :=
  written_of_atom ⟨[.openParen, .closeParen], .mark rfl (.mark rfl .nil), .unit⟩

end TypeExpr

/-- The qualified name of a constructor is read as that constructor. -/
theorem QualifiedName.Proper.writes {head : QualifiedName} (proper : head.Proper) :
    Writes DerivesAtom head.text.toList (.apply head []) := by
  obtain ⟨identifier, ⟨empty, upper⟩ | home⟩ := proper
  · have bare : head.text = head.name := by rw [QualifiedName.text, if_pos empty]
    rw [bare]
    have capital : ¬ VariableName head.name := fun plain =>
      IsVariable.not_startsUpper ⟨identifier, plain⟩ upper
    exact ⟨_, (IsPath.last identifier).spells,
      .constructor capital ⟨identifier.undotted, .inl ⟨empty, rfl⟩⟩⟩
  · have dotted : head.text = head.home ++ "." ++ head.name := by
      rw [QualifiedName.text, if_neg home.ne_empty]
    rw [dotted]
    have notVariable : ¬ VariableName (head.home ++ "." ++ head.name) := fun plain =>
      plain.1 (by simp)
    exact ⟨_, (home.append identifier).spells,
      .constructor notVariable ⟨identifier.undotted, .inr rfl⟩⟩

/-- The unit type is no constructor with a name. -/
theorem QualifiedName.Proper.ne_unit {head : QualifiedName} (proper : head.Proper) :
    TypeExpr.apply head [] ≠ .unit := by
  rintro unit
  obtain rfl := (TypeExpr.apply.inj unit).1
  obtain ⟨⟨c, run, shape, starts, -⟩, -⟩ := proper
  cases shape
  cases starts

namespace TypeExpr

theorem written_apply {head : QualifiedName} {args : List TypeExpr} (proper : head.Proper)
    (all : ∀ arg ∈ args, Written arg) : Written (.apply head args) := by
  obtain ⟨front, spells, derives⟩ := proper.writes
  have same : (text .qualified (.apply head args)).toList = head.text.toList ++
      following " ".toList
        (args.map fun arg => parenthesized arg.isCompound (arg.text .qualified)) := by
    rw [text, argTexts_eq_map, toList_intercalate_cons, Naming.text]
  cases args with
  | nil =>
      refine written_of_atom ⟨front, ?_, derives⟩
      simpa [same, following] using spells
  | cons arg args =>
      obtain ⟨⟨back, rest, derivesRest⟩, ends⟩ := writes_arguments fun arg member =>
        (all arg member).arg
      have whole := DerivesApplication.applied derives proper.ne_unit derivesRest
      have spelled := spells.append rest ends
      rw [← same] at spelled
      exact ⟨⟨_, spelled, .alone whole⟩, fun _ => ⟨_, spelled, whole⟩, by simp [isCompound]⟩

theorem written_tuple {elements : List TypeExpr} (two : 2 ≤ elements.length)
    (all : ∀ element ∈ elements, Written element) : Written (.tuple elements) := by
  match elements with
  | [] | [_] => simp at two
  | first :: second :: more =>
      obtain ⟨⟨front, spells, derives⟩, -⟩ := all first (by simp)
      obtain ⟨⟨back, rest, derivesRest⟩, ends⟩ := writes_elements fun element member =>
        (all element (List.mem_cons_of_mem first member)).1
      have closed : Spells [' ', ')'] [.closeParen] := .blank rfl (.mark rfl .nil)
      have separated : Separated [' ', ')'] := separated_cons_iff.mpr (by decide)
      have inside := spells.append (rest.append closed separated) (ends.append separated)
      refine written_of_atom ⟨.openParen :: (front ++ (back ++ [.closeParen])), ?_,
        .tuple derives derivesRest⟩
      rw [text, texts_eq_map, List.map_cons, String.toList_append, String.toList_append,
        toList_intercalate_cons, List.append_assoc, List.append_assoc]
      exact .mark rfl (.blank rfl inside)

/-- Fields are written with a blank and the closing brace after them. -/
theorem writes_fields {fields : List (String × TypeExpr)} (nonempty : fields ≠ [])
    (labels : ∀ field ∈ fields, IsVariable field.1) (all : ∀ field ∈ fields, Written field.2) :
    ∃ word, DerivesFields word fields ∧
      Spells ((String.intercalate ", " (fieldTexts .qualified fields)).toList ++ [' ', '\x7d'])
        (word ++ [.closeBrace]) := by
  obtain ⟨first, more, rfl⟩ := List.exists_cons_of_ne_nil nonempty
  have each : ∀ field ∈ first :: more, Writes DerivesField
      (field.1 ++ " : " ++ field.2.text .qualified).toList field := fun field member =>
    (all field member).field (labels field member)
  have ⟨head, others⟩ := List.forall_mem_cons.mp each
  obtain ⟨front, spells, derives⟩ := head
  obtain ⟨⟨back, rest, derivesRest⟩, ends⟩ := writes_moreFields others
  have closed : Spells [' ', '\x7d'] [.closeBrace] := .blank rfl (.mark rfl .nil)
  have separated : Separated [' ', '\x7d'] := separated_cons_iff.mpr (by decide)
  refine ⟨front ++ back, .cons derives derivesRest, ?_⟩
  rw [fieldTexts_eq_map, List.map_cons, toList_intercalate_cons, List.append_assoc,
    List.append_assoc]
  exact spells.append (rest.append closed separated) (ends.append separated)

theorem written_record {fields : List (String × TypeExpr)} {extension : Option String}
    (labels : ∀ field ∈ fields, IsVariable field.1) (all : ∀ field ∈ fields, Written field.2)
    (based : ∀ name ∈ extension, IsVariable name ∧ fields ≠ []) :
    Written (.record fields extension) := by
  cases fields with
  | nil =>
      cases extension with
      | none => exact written_of_atom ⟨_, .mark rfl (.mark rfl .nil), .emptyRecord⟩
      | some name => exact absurd rfl (based name rfl).2
  | cons field fields =>
      obtain ⟨word, derives, spells⟩ := writes_fields (List.cons_ne_nil field fields) labels all
      cases extension with
      | none =>
          refine written_of_atom ⟨.openBrace :: (word ++ [.closeBrace]), ?_, .record derives⟩
          have opened : Spells ('\x7b' :: ' ' :: _) _ := .mark rfl (.blank rfl spells)
          simpa [text] using opened
      | some name =>
          obtain ⟨plain, -⟩ := based name rfl
          have named : Spells name.toList [.name name] := (IsPath.last plain.1).spells
          have barred : Spells (' ' :: '|' :: ' ' :: _) _ :=
            .blank rfl (.mark rfl (.blank rfl spells))
          have inside := named.append barred (separated_cons_iff.mpr (by decide))
          refine written_of_atom ⟨.openBrace :: .name name :: .bar :: (word ++ [.closeBrace]), ?_,
            .extended plain.2 derives⟩
          have opened : Spells ('\x7b' :: ' ' :: _) _ := .mark rfl (.blank rfl inside)
          simpa [text, plain.1.ne_empty] using opened

/-- Every well-formed tree is written. -/
theorem WellFormed.written {type : TypeExpr} (wellFormed : WellFormed type) : Written type := by
  induction wellFormed with
  | function nonempty _ _ flat all last => exact written_function nonempty all last flat
  | var plain => exact written_var plain
  | unit => exact written_unit
  | apply proper _ all => exact written_apply proper all
  | tuple two _ all => exact written_tuple two all
  | record labels _ based all => exact written_record labels all based

theorem WellFormed.render {type : TypeExpr} (wellFormed : WellFormed type) (naming : Naming) :
    type.render naming = .ok (type.text naming) := by
  rw [TypeExpr.render, checked, wellFormed.firstForeign?_eq_none]
  rfl

/-- The qualified text of a well-formed tree is read back as the tree. -/
theorem WellFormed.parse?_text {type : TypeExpr} (wellFormed : WellFormed type) :
    parse? (type.text .qualified) = .ok type := by
  obtain ⟨⟨word, spells, derives⟩, -⟩ := wellFormed.written
  exact parse?_of_spells spells derives

end TypeExpr

/-- A text that stands for a variable is blank exactly when the name of the variable is. -/
theorem isAllBlank_of_parse_eq_var {signature name : String}
    (parsed : parse signature = .var name) :
    Text.isAllBlank name.toList = Text.isAllBlank signature.toList := by
  cases outcome : parse? signature with
  | ok type =>
      rw [parse_of_accepted outcome] at parsed
      subst parsed
      have again : parse? name = .ok (.var name) := (wellFormed_of_parse? outcome).parse?_text
      rw [not_blank_of_accepted outcome, not_blank_of_accepted again]
  | error error =>
      rw [parse_of_refused outcome] at parsed
      cases parsed
      rfl

/-- The parser gives well-formed trees only; the qualified text of every well-formed tree is parsed
to that tree; so the trees that the parser gives are the well-formed ones, their qualified texts are
different, and writing what any text stands for does not change what it stands for. -/
theorem parse?_render :
    (∀ (signature : String) (type : TypeExpr),
      parse? signature = .ok type → WellFormed type) ∧
    (∀ type : TypeExpr, WellFormed type →
      ∃ text, type.render .qualified = .ok text ∧ parse? text = .ok type) ∧
    (∀ type : TypeExpr, (∃ signature, parse? signature = .ok type) ↔ WellFormed type) ∧
    (∀ type other : TypeExpr, WellFormed type → WellFormed other →
      type.render .qualified = other.render .qualified → type = other) ∧
    ∀ signature : String, ∃ text,
      (parse signature).render .qualified = .ok text ∧ parse text = parse signature := by
  refine ⟨fun signature type => wellFormed_of_parse?, fun type wellFormed => ?_, fun type => ?_,
    fun type other first second same => ?_, fun signature => ?_⟩
  · exact ⟨_, wellFormed.render .qualified, wellFormed.parse?_text⟩
  · constructor
    · rintro ⟨signature, accepted⟩
      exact wellFormed_of_parse? accepted
    · intro wellFormed
      exact ⟨_, wellFormed.parse?_text⟩
  · rw [first.render, second.render] at same
    have one := first.parse?_text
    rw [Except.ok.inj same, second.parse?_text] at one
    exact (Except.ok.inj one).symm
  · cases parsed : parse? signature with
    | ok type =>
        have wellFormed := wellFormed_of_parse? parsed
        refine ⟨type.text .qualified, ?_, ?_⟩
        · rw [parse_of_accepted parsed]
          exact wellFormed.render .qualified
        · rw [parse_of_accepted parsed, parse_of_accepted wellFormed.parse?_text]
    | error error =>
        rw [parse_of_refused parsed]
        exact ⟨signature, rfl, parse_of_refused parsed⟩

end Signature
end SignatureSearch
