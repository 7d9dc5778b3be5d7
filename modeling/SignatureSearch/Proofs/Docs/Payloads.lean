import Mathlib.Data.List.Forall2
import SignatureSearch.Docs.Payload

/-!
# What a payload loads

A payload is checked twice: for its layout, and each module that it lays out for the name that a
module has to have.  The layout is described by relations between JSON values and declarations, one
for each kind of part, and each check is shown to find just what its relation describes.  The main
statement is that a payload loads as one module for each of its declarations, in order, or cannot be
loaded because it lays out none, and that only a module without a name ends otherwise.
-/

namespace SignatureSearch

namespace Validated

variable {α β : Type}

theorem under_eq_ok_iff {step : String} {check : Validated α} {value : α} :
    under step check = .ok value ↔ check = .ok value := by
  cases check <;> simp [under]

theorem both_eq_ok_iff {first : Validated α} {second : Validated β} {value : α} {other : β} :
    both first second = .ok (value, other) ↔ first = .ok value ∧ second = .ok other := by
  cases first <;> cases second <;> simp [both]

theorem allFrom_eq_ok_iff {position : Nat} {checks : List (Validated α)} {values : List α} :
    allFrom position checks = .ok values ↔
      List.Forall₂ (fun check value => check = .ok value) checks values := by
  induction checks generalizing position values with
  | nil => cases values <;> simp [allFrom]
  | cons check checks ih =>
      have first : ∀ value rest,
          both (under (toString position) check) (allFrom (position + 1) checks) =
              .ok (value, rest) ↔
            check = .ok value ∧
              List.Forall₂ (fun check value => check = .ok value) checks rest := by
        intro value rest
        rw [both_eq_ok_iff, under_eq_ok_iff, ih]
      cases values with
      | nil =>
          rw [allFrom]
          split <;> simp
      | cons value values =>
          rw [List.forall₂_cons, ← first, allFrom]
          split <;> rename_i found <;> rw [found] <;> simp

theorem bind_eq_ok_iff {found : Validated α} {make : α → Validated β} {value : β} :
    (found >>= make) = .ok value ↔ ∃ parts, found = .ok parts ∧ make parts = .ok value := by
  cases found with
  | ok parts =>
      constructor
      · intro made
        exact ⟨parts, rfl, made⟩
      · rintro ⟨_, same, made⟩
        cases same
        exact made
  | error issues =>
      refine iff_of_false (fun made => by cases made) ?_
      rintro ⟨parts, same, -⟩
      cases same

end Validated

namespace Docs

/-! ## The layout -/

section Layout

variable {α : Type}

/-- A value is a text. -/
def IsText (json : Json) (text : String) : Prop :=
  json = .string text

/-- A value is a list of items. -/
def IsList (IsItem : Json → α → Prop) (json : Json) (values : List α) : Prop :=
  ∃ items, json = .array items ∧ List.Forall₂ IsItem items values

/-- A value is a record with certain members. -/
def IsRecord (HasParts : List (String × Json) → α → Prop) (json : Json) (value : α) : Prop :=
  ∃ members, json = .object members ∧ HasParts members value

/-- A value is a constructor: its name and the list of its arguments. -/
def IsCase (json : Json) (case : String × List String) : Prop :=
  ∃ tag args, json = .array [tag, args] ∧ IsText tag case.1 ∧ IsList IsText args case.2

/-- A part of a record is given, or is left out where there is a value for that case. -/
inductive IsPart (IsGiven : Json → α → Prop) (absent : Option α) : Option Json → α → Prop
  /-- The part is given. -/
  | given {json : Json} {value : α} (laid : IsGiven json value) :
      IsPart IsGiven absent (some json) value
  /-- The part is left out. -/
  | leftOut {value : α} (instead : absent = some value) : IsPart IsGiven absent none value

/-- The members of a record are the parts of a value or operator. -/
structure ValueDecl.HasParts (members : List (String × Json)) (decl : ValueDecl) : Prop where
  /-- Its name. -/
  name : IsPart IsText none (members.lookup "name") decl.name
  /-- Its comment. -/
  comment : IsPart IsText (some "") (members.lookup "comment") decl.comment
  /-- Its signature. -/
  type : IsPart IsText none (members.lookup "type") decl.type

/-- The members of a record are the parts of an alias. -/
structure AliasDecl.HasParts (members : List (String × Json)) (decl : AliasDecl) : Prop where
  /-- Its name. -/
  name : IsPart IsText none (members.lookup "name") decl.name
  /-- Its comment. -/
  comment : IsPart IsText (some "") (members.lookup "comment") decl.comment
  /-- Its parameters. -/
  args : IsPart (IsList IsText) (some []) (members.lookup "args") decl.args
  /-- The type it stands for. -/
  type : IsPart IsText none (members.lookup "type") decl.type

/-- The members of a record are the parts of a union. -/
structure UnionDecl.HasParts (members : List (String × Json)) (decl : UnionDecl) : Prop where
  /-- Its name. -/
  name : IsPart IsText none (members.lookup "name") decl.name
  /-- Its comment. -/
  comment : IsPart IsText (some "") (members.lookup "comment") decl.comment
  /-- Its parameters. -/
  args : IsPart (IsList IsText) (some []) (members.lookup "args") decl.args
  /-- Its constructors. -/
  cases : IsPart (IsList IsCase) (some []) (members.lookup "cases") decl.cases

/-- The members of a record are the parts of a module. -/
structure ModuleDecl.HasParts (members : List (String × Json)) (decl : ModuleDecl) : Prop where
  /-- Its name. -/
  name : IsPart IsText none (members.lookup "name") decl.name
  /-- Its comment. -/
  comment : IsPart IsText (some "") (members.lookup "comment") decl.comment
  /-- Its values. -/
  values : IsPart (IsList (IsRecord ValueDecl.HasParts)) (some []) (members.lookup "values")
    decl.values
  /-- Its operators. -/
  binops : IsPart (IsList (IsRecord ValueDecl.HasParts)) (some []) (members.lookup "binops")
    decl.binops
  /-- Its aliases. -/
  aliases : IsPart (IsList (IsRecord AliasDecl.HasParts)) (some []) (members.lookup "aliases")
    decl.aliases
  /-- Its unions. -/
  unions : IsPart (IsList (IsRecord UnionDecl.HasParts)) (some []) (members.lookup "unions")
    decl.unions

/-! ## Checks of the layout -/

/-- A check finds just what a relation describes. -/
def Finds (check : Json → Validated α) (Describes : Json → α → Prop) : Prop :=
  ∀ json value, check json = .ok value ↔ Describes json value

theorem finds_text : Finds checkText IsText := by
  intro json text
  cases json <;> simp [checkText, IsText, Validated.fail]

theorem finds_list {check : Json → Validated α} {IsItem : Json → α → Prop}
    (item : Finds check IsItem) : Finds (checkList check) (IsList IsItem) := by
  intro json values
  cases json with
  | array items =>
      rw [checkList, Validated.all, Validated.allFrom_eq_ok_iff, List.forall₂_map_left_iff]
      simp only [item _ _, IsList, Json.array.injEq, exists_eq_left']
  | _ => simp [checkList, IsList, Validated.fail]

theorem finds_case : Finds checkCase IsCase := by
  rintro json ⟨tag, args⟩
  match json with
  | .array [name, given] =>
      rw [checkCase, Validated.both_eq_ok_iff, Validated.under_eq_ok_iff,
        Validated.under_eq_ok_iff, finds_text, finds_list finds_text]
      simp [IsCase]
  | .array [] => simp [checkCase, Validated.fail, Validated.under, Validated.both, IsCase]
  | .array [name] =>
      cases named : checkText name <;>
        simp [checkCase, named, Validated.fail, Validated.under, Validated.both, IsCase]
  | .array (_ :: _ :: _ :: _) => simp [checkCase, Validated.fail, IsCase]
  | .null | .bool _ | .int _ | .real _ | .string _ | .object _ =>
      simp [checkCase, Validated.fail, IsCase]

theorem part_eq_ok_iff {check : Json → Validated α} {IsGiven : Json → α → Prop}
    (finds : Finds check IsGiven) {name : String} {absent : Option α} {given : Option Json}
    {value : α} :
    Validated.part name absent check given = .ok value ↔ IsPart IsGiven absent given value := by
  cases given with
  | some json =>
      rw [Validated.part, Validated.under_eq_ok_iff, finds]
      exact ⟨.given, fun | .given laid => laid⟩
  | none =>
      have instead : Validated.part name absent check none = .ok value ↔ absent = some value := by
        cases absent <;> simp [Validated.part, Validated.under, Validated.fail]
      rw [instead]
      exact ⟨.leftOut, fun | .leftOut instead => instead⟩

/-- A check that fails of everything but records, and finds the parts of a record, finds the
record. -/
theorem finds_record {check : Json → Validated α} {HasParts : List (String × Json) → α → Prop}
    (object : ∀ members value, check (.object members) = .ok value ↔ HasParts members value)
    (other : ∀ json, (∀ members, json ≠ .object members) → check json = .fail .notRecord) :
    Finds check (IsRecord HasParts) := by
  intro json value
  by_cases isObject : ∃ members, json = .object members
  · obtain ⟨members, rfl⟩ := isObject
    rw [object]
    exact ⟨fun parts => ⟨members, rfl, parts⟩, fun ⟨_, same, parts⟩ => by cases same; exact parts⟩
  · rw [other json (not_exists.mp isObject)]
    exact iff_of_false (fun made => by cases made) fun ⟨members, same, _⟩ =>
      isObject ⟨members, same⟩

theorem ValueDecl.finds : Finds check (IsRecord HasParts) := by
  refine finds_record ?_ fun json differs => by unfold check; split <;> simp_all
  intro members decl
  rw [check, Validated.bind_eq_ok_iff]
  simp only [Prod.exists, Validated.both_eq_ok_iff, part_eq_ok_iff finds_text]
  constructor
  · rintro ⟨name, comment, type, ⟨hasName, hasComment, hasType⟩, made⟩
    cases made
    exact ⟨hasName, hasComment, hasType⟩
  · intro parts
    exact ⟨_, _, _, ⟨parts.name, parts.comment, parts.type⟩, rfl⟩

theorem AliasDecl.finds : Finds check (IsRecord HasParts) := by
  refine finds_record ?_ fun json differs => by unfold check; split <;> simp_all
  intro members decl
  rw [check, Validated.bind_eq_ok_iff]
  simp only [Prod.exists, Validated.both_eq_ok_iff, part_eq_ok_iff finds_text,
    part_eq_ok_iff (finds_list finds_text)]
  constructor
  · rintro ⟨name, comment, args, type, ⟨hasName, hasComment, hasArgs, hasType⟩, made⟩
    cases made
    exact ⟨hasName, hasComment, hasArgs, hasType⟩
  · intro parts
    exact ⟨_, _, _, _, ⟨parts.name, parts.comment, parts.args, parts.type⟩, rfl⟩

theorem UnionDecl.finds : Finds check (IsRecord HasParts) := by
  refine finds_record ?_ fun json differs => by unfold check; split <;> simp_all
  intro members decl
  rw [check, Validated.bind_eq_ok_iff]
  simp only [Prod.exists, Validated.both_eq_ok_iff, part_eq_ok_iff finds_text,
    part_eq_ok_iff (finds_list finds_text), part_eq_ok_iff (finds_list finds_case)]
  constructor
  · rintro ⟨name, comment, args, cases, ⟨hasName, hasComment, hasArgs, hasCases⟩, made⟩
    cases made
    exact ⟨hasName, hasComment, hasArgs, hasCases⟩
  · intro parts
    exact ⟨_, _, _, _, ⟨parts.name, parts.comment, parts.args, parts.cases⟩, rfl⟩

theorem ModuleDecl.finds : Finds check (IsRecord HasParts) := by
  refine finds_record ?_ fun json differs => by unfold check; split <;> simp_all
  intro members decl
  rw [check, Validated.bind_eq_ok_iff]
  simp only [Prod.exists, Validated.both_eq_ok_iff, part_eq_ok_iff finds_text,
    part_eq_ok_iff (finds_list ValueDecl.finds), part_eq_ok_iff (finds_list AliasDecl.finds),
    part_eq_ok_iff (finds_list UnionDecl.finds)]
  constructor
  · rintro ⟨name, comment, values, binops, aliases, unions,
      ⟨hasName, hasComment, hasValues, hasBinops, hasAliases, hasUnions⟩, made⟩
    cases made
    exact ⟨hasName, hasComment, hasValues, hasBinops, hasAliases, hasUnions⟩
  · intro parts
    exact ⟨_, _, _, _, _, _,
      ⟨parts.name, parts.comment, parts.values, parts.binops, parts.aliases, parts.unions⟩, rfl⟩

end Layout

/-! ## Modules -/

/-- A declared module is documented: its name, its comment and its entries. -/
structure ModuleDecl.Documents (decl : ModuleDecl) (docs : ModuleDocs) : Prop where
  /-- The name is that of the declaration. -/
  name : docs.name = decl.name
  /-- The comment is that of the declaration. -/
  comment : docs.comment = decl.comment
  /-- The entries are those of the declaration. -/
  entries : docs.entries = Table.ofRows decl.rows

/-- What is wrong with a module without a name. -/
def namelessIssue : Issue :=
  { location := ["module_name"], kind := .textTooShort }

theorem ModuleDecl.docs_of_named {decl : ModuleDecl} (named : decl.name ≠ "") :
    ∃ docs, decl.docs = .ok docs ∧ decl.Documents docs := by
  refine ⟨⟨decl.name, decl.comment, Table.ofRows decl.rows, named⟩, ?_, ⟨rfl, rfl, rfl⟩⟩
  rw [ModuleDecl.docs, ModuleDocs.check, dif_neg named]

theorem ModuleDecl.docs_of_nameless {decl : ModuleDecl} (nameless : decl.name = "") :
    decl.docs = .error [namelessIssue] := by
  rw [ModuleDecl.docs, ModuleDocs.check, dif_pos nameless]
  rfl

/-- Modules that have names are all documented, in order. -/
theorem checkModules_of_named {decls : List ModuleDecl} (named : ∀ decl ∈ decls, decl.name ≠ "") :
    ∃ modules, checkModules decls = .ok modules ∧
      List.Forall₂ ModuleDecl.Documents decls modules := by
  induction decls with
  | nil => exact ⟨[], rfl, .nil⟩
  | cons decl decls ih =>
      rw [List.forall_mem_cons] at named
      obtain ⟨docs, made, documents⟩ := ModuleDecl.docs_of_named named.1
      obtain ⟨modules, rest, others⟩ := ih named.2
      exact ⟨docs :: modules, by rw [checkModules, made, rest], .cons documents others⟩

/-- One module without a name is enough to have all of them refused. -/
theorem checkModules_of_nameless {decls : List ModuleDecl}
    (nameless : ∃ decl ∈ decls, decl.name = "") : checkModules decls = .error [namelessIssue] := by
  induction decls with
  | nil => simp at nameless
  | cons decl decls ih =>
      rw [checkModules]
      by_cases named : decl.name = ""
      · rw [ModuleDecl.docs_of_nameless named]
      · obtain ⟨docs, made, -⟩ := ModuleDecl.docs_of_named named
        rw [List.exists_mem_cons_iff] at nameless
        rw [made, ih (nameless.resolve_left named)]

/-! ## Payloads -/

/-- A payload as it arrives. -/
inductive Payload where
  /-- As a text. -/
  | text (payload : String)
  /-- As octets. -/
  | octets (payload : List UInt8)

namespace Payload

/-- The JSON value that a payload writes, if it writes one. -/
def json? : Payload → Option Json
  | text payload => Json.read? payload
  | octets payload => (Text.decodeStrict? payload).bind Json.read?

/-- The modules that a payload documents. -/
def load : Payload → Except PayloadError (List ModuleDocs)
  | text payload => ofText payload
  | octets payload => ofOctets payload

/-- A payload writes a list of records that are the declarations of modules. -/
def LaysOut (payload : Payload) (decls : List ModuleDecl) : Prop :=
  ∃ json, payload.json? = some json ∧ IsList (IsRecord ModuleDecl.HasParts) json decls

/-- A payload declares a module and gives it no name. -/
def HasNameless (payload : Payload) : Prop :=
  ∃ decls, payload.LaysOut decls ∧ ∃ decl ∈ decls, decl.name = ""

end Payload

/-- An error of loading says that a payload is no JSON text or has another layout.  A refused module
is no such error. -/
def PayloadError.IsOfLoading : PayloadError → Prop
  | notJson => True
  | layout _ => True
  | refused _ => False

namespace Payload

variable {payload : Payload} {decls : List ModuleDecl}

theorem laysOut_iff :
    payload.LaysOut decls ↔
      (payload.json?.bind fun json => (checkList ModuleDecl.check json).toOption) = some decls := by
  simp only [LaysOut, ← finds_list ModuleDecl.finds _ _, Option.bind_eq_some_iff]
  refine exists_congr fun json => and_congr_right fun _ => ?_
  cases checkList ModuleDecl.check json <;> simp [Except.toOption]

instance (payload : Payload) (decls : List ModuleDecl) : Decidable (payload.LaysOut decls) :=
  decidable_of_iff _ laysOut_iff.symm

/-- What loads is what the JSON value says, however the payload arrives. -/
theorem load_eq (payload : Payload) :
    payload.load = match payload.json? with
      | none => .error .notJson
      | some json => ofJson json := by
  cases payload with
  | text payload => rfl
  | octets payload =>
      rw [load, json?, ofOctets]
      cases Text.decodeStrict? payload <;> rfl

theorem ofJson_of_laid {json : Json} (laid : IsList (IsRecord ModuleDecl.HasParts) json decls) :
    ofJson json = match checkModules decls with
      | .error issues => .error (.refused issues)
      | .ok modules => .ok modules := by
  have checked := (finds_list ModuleDecl.finds json decls).mpr laid
  cases made : checkModules decls <;> simp only [ofJson, checked, made]

theorem load_of_laid (laid : payload.LaysOut decls) :
    payload.load = match checkModules decls with
      | .error issues => .error (.refused issues)
      | .ok modules => .ok modules := by
  obtain ⟨json, written, records⟩ := laid
  rw [load_eq, written]
  exact ofJson_of_laid records

/-- Declarations that have names all load, in order. -/
theorem load_of_named (laid : payload.LaysOut decls) (named : ∀ decl ∈ decls, decl.name ≠ "") :
    ∃ modules, payload.load = .ok modules ∧ List.Forall₂ ModuleDecl.Documents decls modules := by
  obtain ⟨modules, checked, documents⟩ := checkModules_of_named named
  exact ⟨modules, by rw [load_of_laid laid, checked], documents⟩

theorem load_of_nameless (nameless : payload.HasNameless) :
    payload.load = .error (.refused [namelessIssue]) := by
  obtain ⟨decls, laid, missing⟩ := nameless
  rw [load_of_laid laid, checkModules_of_nameless missing]

/-- What lays out no declarations cannot be loaded. -/
theorem load_of_unlaid (unlaid : ∀ decls, ¬ payload.LaysOut decls) :
    ∃ error, payload.load = .error error ∧ error.IsOfLoading := by
  rw [load_eq]
  cases written : payload.json? with
  | none => exact ⟨.notJson, rfl, trivial⟩
  | some json =>
      cases checked : checkList ModuleDecl.check json with
      | ok decls =>
          exact absurd ⟨json, written, (finds_list ModuleDecl.finds json decls).mp checked⟩
            (unlaid decls)
      | error issues =>
          refine ⟨.layout issues, ?_, trivial⟩
          change ofJson json = _
          rw [ofJson, checked]

/-- **What a payload loads.**  A payload loads as one module for each of its declarations, in order,
or cannot be loaded because it lays out none, unless it declares a module without a name; exactly
then the module is refused, for its name. -/
theorem load_unless_nameless (payload : Payload) :
    (¬ payload.HasNameless →
      (∃ decls modules, payload.LaysOut decls ∧ payload.load = .ok modules ∧
        List.Forall₂ ModuleDecl.Documents decls modules) ∨
      ∃ error, payload.load = .error error ∧ error.IsOfLoading ∧
        ∀ decls, ¬ payload.LaysOut decls) ∧
    (payload.HasNameless ↔ payload.load = .error (.refused [namelessIssue])) := by
  by_cases laid : ∃ decls, payload.LaysOut decls
  · obtain ⟨decls, laid⟩ := laid
    by_cases named : ∀ decl ∈ decls, decl.name ≠ ""
    · obtain ⟨modules, loaded, documents⟩ := load_of_named laid named
      refine ⟨fun _ => .inl ⟨decls, modules, laid, loaded, documents⟩, ?_⟩
      refine ⟨load_of_nameless, fun refused => ?_⟩
      rw [loaded] at refused
      cases refused
    · have nameless : payload.HasNameless := by
        simp only [not_forall, not_not] at named
        obtain ⟨decl, listed, missing⟩ := named
        exact ⟨decls, laid, decl, listed, missing⟩
      exact ⟨absurd nameless, iff_of_true nameless (load_of_nameless nameless)⟩
  · have unlaid := not_exists.mp laid
    obtain ⟨error, failed, loading⟩ := load_of_unlaid unlaid
    refine ⟨fun _ => .inr ⟨error, failed, loading, unlaid⟩, ?_⟩
    refine ⟨load_of_nameless, fun refused => ?_⟩
    rw [failed] at refused
    cases refused
    exact loading.elim

/-- Two modules of which only the names are given load as two modules. -/
theorem load_unless_nameless_two :
    ¬ (text "[\x7b\"name\":\"Set\"\x7d,\x7b\"name\":\"Dict\"\x7d]").HasNameless ∧
      ∃ decls modules,
        (text "[\x7b\"name\":\"Set\"\x7d,\x7b\"name\":\"Dict\"\x7d]").LaysOut decls ∧
        List.Forall₂ ModuleDecl.Documents decls modules ∧
        modules.map ModuleDocs.name = ["Set", "Dict"] := by
  -- The text is read once, for the names; from there on the payload is any with such names.
  generalize given : text "[\x7b\"name\":\"Set\"\x7d,\x7b\"name\":\"Dict\"\x7d]" = payload
  have names : payload.load.toOption.map (List.map ModuleDocs.name) = some ["Set", "Dict"] := by
    rw [← given]
    decide +kernel
  obtain ⟨loads, refusal⟩ := load_unless_nameless payload
  have named : ¬ payload.HasNameless := by
    intro nameless
    rw [refusal.mp nameless] at names
    cases names
  refine ⟨named, ?_⟩
  rcases loads named with ⟨decls, modules, laid, loaded, documents⟩ | ⟨error, failed, -⟩
  · rw [loaded] at names
    exact ⟨decls, modules, laid, documents, Option.some.inj names⟩
  · rw [failed] at names
    cases names

/-- A module whose name is empty is refused, and not by an error of loading. -/
theorem load_empty_name :
    (text "[\x7b\"name\":\"\"\x7d]").load = .error (.refused [namelessIssue]) ∧
      ¬ (PayloadError.refused [namelessIssue]).IsOfLoading := by
  have nameless : (text "[\x7b\"name\":\"\"\x7d]").HasNameless :=
    ⟨[⟨"", "", [], [], [], []⟩], by decide +kernel, _, List.mem_singleton_self _, rfl⟩
  exact ⟨load_of_nameless nameless, id⟩

end Payload

end Docs
end SignatureSearch
