import SignatureSearch.Proofs.Signature.RoundTrip
import SignatureSearch.Proofs.Signature.Subtrees

/-!
# Types without homes

A signature is shown with the names of constructors alone, and that is the qualified text of the
type with the homes of its constructors erased.  The main statement is that this text is read back
as the type without homes exactly when no constructor has a home and a name that reads as a variable
without it.
-/

namespace SignatureSearch
namespace Signature

/-- A text begins with a small letter or an underscore. -/
def StartsSmall (text : String) : Prop :=
  ∃ c ∈ text.toList.head?, c.isLower = true ∨ c = '_'

theorem IsIdentifier.startsUpper_or_startsSmall {text : String} (identifier : IsIdentifier text) :
    StartsUpper text ∨ StartsSmall text := by
  obtain ⟨c, rest, shape, starts, -⟩ := identifier
  have first : c ∈ text.toList.head? := by simp [shape]
  rcases (Bool.or_eq_true _ _).mp starts with letter | underscore
  · rcases (Bool.or_eq_true _ _).mp letter with upper | lower
    · exact .inl ⟨c, first, upper⟩
    · exact .inr ⟨c, first, .inl lower⟩
  · exact .inr ⟨c, first, .inr (eq_of_beq underscore)⟩

theorem IsIdentifier.ne_unit {text : String} (identifier : IsIdentifier text) : text ≠ "()" := by
  rintro rfl
  obtain ⟨c, rest, shape, starts, -⟩ := identifier
  cases shape
  cases starts

theorem StartsUpper.not_startsSmall {text : String} (capital : StartsUpper text) :
    ¬ StartsSmall text := by
  rintro ⟨c, first, small⟩
  obtain ⟨d, head, upper⟩ := capital
  obtain rfl : d = c := Option.some.inj (head.symm.trans first)
  rcases small with lower | rfl
  · have fromSmallA := of_decide_eq_true ((Bool.and_eq_true _ _).mp lower).1
    have toCapitalZ := (of_decide_eq_true upper).2
    exact absurd (UInt32.le_trans fromSmallA toCapitalZ) (by decide)
  · exact absurd upper (by decide)

namespace QualifiedName

/-- A name without its module. -/
def unhomed (head : QualifiedName) : QualifiedName :=
  { head with home := "" }

theorem text_unhomed (head : QualifiedName) : head.unhomed.text = head.name := by
  rw [text, unhomed, if_pos rfl]

end QualifiedName

namespace TypeExpr

/-- The type with the homes of its constructors erased. -/
def unhomed : TypeExpr → TypeExpr :=
  mapFrame QualifiedName.unhomed id

/-! ## The bare text -/

section Frame

variable (head : QualifiedName → QualifiedName) (base : Option String → Option String)

theorem isFunction_mapFrame (type : TypeExpr) :
    (type.mapFrame head base).isFunction = type.isFunction := by
  cases type <;> rfl

theorem isCompound_mapFrame (type : TypeExpr) :
    (type.mapFrame head base).isCompound = type.isCompound := by
  cases type with
  | apply name args => cases args <;> rfl
  | _ => rfl

/-- Two changes of the frame are one. -/
theorem mapFrame_mapFrame (head' : QualifiedName → QualifiedName)
    (base' : Option String → Option String) (type : TypeExpr) :
    (type.mapFrame head base).mapFrame head' base' =
      type.mapFrame (head' ∘ head) (base' ∘ base) := by
  induction type with
  | function params result front last =>
      simp only [mapFrame, mapFrameAll_eq_map, List.map_map, last, List.map_congr_left front,
        Function.comp_def]
  | var name => rfl
  | apply name args all =>
      simp only [mapFrame, mapFrameAll_eq_map, List.map_map, List.map_congr_left all,
        Function.comp_def]
  | tuple elements all =>
      simp only [mapFrame, mapFrameAll_eq_map, List.map_map, List.map_congr_left all,
        Function.comp_def]
  | record fields extension all =>
      have same := List.map_congr_left fun field member =>
        congrArg (Prod.mk field.1) (all field member)
      simp only [mapFrame, mapFrameFields_eq_map, List.map_map, Function.comp_def, same]
  | foreign text => rfl

end Frame

theorem unhomed_unhomed (type : TypeExpr) : type.unhomed.unhomed = type.unhomed :=
  mapFrame_mapFrame _ _ _ _ type

/-- Homes are erased from a canonical form as before the labelling. -/
theorem unhomed_canonical (type : TypeExpr) : type.canonical.unhomed = type.unhomed.canonical :=
  mapFrame_canonical _ _ type

/-- The bare text of a type is the qualified text of the type without homes. -/
theorem text_bare (type : TypeExpr) : type.text .bare = type.unhomed.text .qualified := by
  unfold unhomed
  induction type with
  | function params result front last =>
      have texts := List.map_congr_left fun param member =>
        congrArg (parenthesized param.isFunction) (front param member)
      simp only [mapFrame, text, mapFrameAll_eq_map, paramTexts_eq_map, List.map_map,
        Function.comp_def, isFunction_mapFrame, texts, last]
  | var name => rfl
  | apply name args all =>
      have texts := List.map_congr_left fun arg member =>
        congrArg (parenthesized arg.isCompound) (all arg member)
      simp only [mapFrame, text, mapFrameAll_eq_map, argTexts_eq_map, List.map_map,
        Function.comp_def, isCompound_mapFrame, texts, Naming.text, QualifiedName.text_unhomed]
  | tuple elements all =>
      simp only [mapFrame, text, mapFrameAll_eq_map, texts_eq_map, List.map_map,
        Function.comp_def, List.map_congr_left all]
  | record fields extension all =>
      have texts := List.map_congr_left fun field member =>
        congrArg (field.1 ++ " : " ++ ·) (all field member)
      have same : fieldTexts .bare fields =
          fieldTexts .qualified (mapFrameFields QualifiedName.unhomed id fields) := by
        rw [fieldTexts_eq_map, fieldTexts_eq_map, mapFrameFields_eq_map, List.map_map, texts]
        rfl
      cases fields with
      | nil => rfl
      | cons field fields =>
          rw [mapFrame, text.eq_def, text.eq_def]
          simp only [mapFrameFields] at same ⊢
          rw [same]
          rfl
  | foreign text => rfl

/-! ## Well-formed types without homes -/

theorem WellFormed.eq_unit_or_proper {head : QualifiedName} {args : List TypeExpr}
    (wellFormed : WellFormed (.apply head args)) :
    TypeExpr.apply head args = TypeExpr.unit ∨ head.Proper := by
  cases wellFormed with
  | unit => exact .inl rfl
  | apply proper _ => exact .inr proper

/-- Every constructor of the type is the unit type or has a name that begins with a capital
letter. -/
def Capitalized (type : TypeExpr) : Prop :=
  ∀ head args, .apply head args ∈ type.subtrees → .apply head args = unit ∨ StartsUpper head.name

theorem Capitalized.part {type part : TypeExpr} (capitalized : type.Capitalized)
    (inside : ∀ inner ∈ part.subtrees, inner ∈ type.subtrees) : part.Capitalized :=
  fun head args member => capitalized head args (inside _ member)

/-- A constructor has a name that begins with a capital letter exactly when it has no home or does
not begin otherwise. -/
theorem capitalized_iff {type : TypeExpr} (wellFormed : WellFormed type) :
    type.Capitalized ↔ ∀ head args, .apply head args ∈ type.subtrees →
      ¬ (head.home ≠ "" ∧ StartsSmall head.name) := by
  refine forall₃_congr fun head args inside => ?_
  rcases (wellFormed.subtree _ inside).eq_unit_or_proper with unit | ⟨identifier, home⟩
  · obtain ⟨rfl, rfl⟩ := TypeExpr.apply.inj unit
    exact iff_of_true (.inl unit) fun both => both.1 rfl
  · constructor
    · rintro (unit | capital) ⟨away, small⟩
      · obtain ⟨rfl, -⟩ := TypeExpr.apply.inj unit
        exact away rfl
      · exact capital.not_startsSmall small
    · intro plain
      rcases home with ⟨-, capital⟩ | home
      · exact .inr capital
      · exact .inr (identifier.startsUpper_or_startsSmall.resolve_right fun small =>
          plain ⟨home.ne_empty, small⟩)

/-- A well-formed type with capitalized constructors is well-formed without homes. -/
theorem WellFormed.unhomed {type : TypeExpr} (wellFormed : WellFormed type) :
    type.Capitalized → WellFormed type.unhomed := by
  unfold TypeExpr.unhomed
  induction wellFormed with
  | @function params result nonempty _ _ flat all last =>
      intro capitalized
      rw [mapFrame, mapFrameAll_eq_map]
      refine .function (by simpa using nonempty) (List.forall_mem_map.mpr fun param member => ?_)
        (last ?_) (by rwa [isFunction_mapFrame])
      · exact all param member (capitalized.part fun inner inside =>
          List.mem_cons_of_mem _ (List.mem_append_left _ (mem_subtreesOf member inside)))
      · exact capitalized.part fun inner inside =>
          List.mem_cons_of_mem _ (List.mem_append_right _ inside)
  | var plain => exact fun _ => .var plain
  | unit => exact fun _ => .unit
  | @apply head args proper _ all =>
      intro capitalized
      rw [mapFrame, mapFrameAll_eq_map]
      refine .apply ⟨proper.1, .inl ⟨rfl, ?_⟩⟩ (List.forall_mem_map.mpr fun arg member => ?_)
      · refine (capitalized head args (self_mem_subtrees _)).resolve_left fun unit => ?_
        exact proper.1.ne_unit (congrArg QualifiedName.name (TypeExpr.apply.inj unit).1)
      · exact all arg member (capitalized.part fun inner inside =>
          List.mem_cons_of_mem _ (mem_subtreesOf member inside))
  | @tuple elements two _ all =>
      intro capitalized
      rw [mapFrame, mapFrameAll_eq_map]
      refine .tuple (by simpa using two) (List.forall_mem_map.mpr fun element member => ?_)
      exact all element member (capitalized.part fun inner inside =>
        List.mem_cons_of_mem _ (mem_subtreesOf member inside))
  | @record fields extension labels _ based all =>
      intro capitalized
      rw [mapFrame, mapFrameFields_eq_map]
      refine .record (List.forall_mem_map.mpr labels)
        (List.forall_mem_map.mpr fun field member => ?_) fun name base => ?_
      · exact all field member (capitalized.part fun inner inside =>
          List.mem_cons_of_mem _ (mem_subtreesOfFields member inside))
      · simpa using based name base

/-- A well-formed type is well-formed without homes exactly when its constructors are
capitalized. -/
theorem wellFormed_unhomed_iff {type : TypeExpr} (wellFormed : WellFormed type) :
    WellFormed type.unhomed ↔ type.Capitalized := by
  refine ⟨fun bare head args inside => ?_, wellFormed.unhomed⟩
  have part : WellFormed (unhomed (.apply head args)) := by
    refine bare.subtree _ ?_
    rw [unhomed, subtrees_mapFrame]
    exact List.mem_map_of_mem inside
  rcases (wellFormed.subtree _ inside).eq_unit_or_proper with same | ⟨identifier, -⟩
  · exact .inl same
  · rcases part.eq_unit_or_proper with same | ⟨-, capital | home⟩
    · exact absurd (congrArg QualifiedName.name (TypeExpr.apply.inj same).1) identifier.ne_unit
    · exact .inr capital.2
    · exact absurd rfl home.ne_empty

end TypeExpr

/-- The bare text of a type that is read from a signature is read back as the type without homes
exactly when no constructor in it has a home and a name that begins with a small letter or an
underscore. -/
theorem parse?_bare_iff {signature : String} {type : TypeExpr}
    (accepted : parse? signature = .ok type) :
    ∃ text, type.render .bare = .ok text ∧
      (parse? text = .ok type.unhomed ↔ ∀ head args, .apply head args ∈ type.subtrees →
        ¬ (head.home ≠ "" ∧ StartsSmall head.name)) := by
  have wellFormed := wellFormed_of_parse? accepted
  refine ⟨_, wellFormed.render .bare, ?_⟩
  rw [TypeExpr.text_bare, ← TypeExpr.capitalized_iff wellFormed,
    ← TypeExpr.wellFormed_unhomed_iff wellFormed]
  exact ⟨wellFormed_of_parse?, TypeExpr.WellFormed.parse?_text⟩

/-- A decoder with a small name in a module is not read back without its home: its bare text is a
variable with an argument. -/
theorem parse?_bare_iff_decoder :
    parse? "Json.decoder a" = .ok (.apply ⟨"Json", "decoder"⟩ [.var "a"]) ∧
      ∃ text, (TypeExpr.apply ⟨"Json", "decoder"⟩ [.var "a"]).render .bare = .ok text ∧
        parse? text ≠ .ok (.apply ⟨"", "decoder"⟩ [.var "a"]) := by
  have full : (TypeExpr.apply ⟨"Json", "decoder"⟩ [.var "a"]).WellFormed := by
    refine .apply ⟨by decide, .inr (.last (by decide))⟩ (List.forall_mem_singleton.mpr ?_)
    exact .var (by decide)
  obtain ⟨text, rendered, again⟩ := parse?_bare_iff full.parse?_text
  refine ⟨full.parse?_text, text, rendered, fun read => ?_⟩
  exact again.mp read _ _ (TypeExpr.self_mem_subtrees _) ⟨by decide, 'd', rfl, .inl (by decide)⟩

end Signature
end SignatureSearch
