/-!
# Occurrences of one text in another

A text occurs in another when it is a contiguous part of it.  The first occurrence of a separator
cuts a text in two, and cutting again and again splits it.
-/

namespace SignatureSearch
namespace Text

/-- Whether `needle` is a contiguous part of a text. -/
def occurs (needle : List Char) : List Char → Bool
  | [] => needle.isEmpty
  | c :: rest => needle.isPrefixOf (c :: rest) || occurs needle rest

/-- What follows `front` in a text that starts with it. -/
def after? : List Char → List Char → Option (List Char)
  | [], text => some text
  | _ :: _, [] => none
  | f :: front, c :: text => if f = c then after? front text else none

/-- The parts of a text before and after the first occurrence of a separator. -/
def cut? (separator : List Char) : List Char → Option (List Char × List Char)
  | [] => (after? separator []).map fun rest => ([], rest)
  | c :: text =>
      match after? separator (c :: text) with
      | some rest => some ([], rest)
      | none => (cut? separator text).map fun parts => (c :: parts.1, parts.2)

theorem after?_eq_some_iff {front text rest : List Char} :
    after? front text = some rest ↔ text = front ++ rest := by
  induction front generalizing text with
  | nil => simp [after?, eq_comm]
  | cons f front ih =>
      cases text with
      | nil => simp [after?]
      | cons c text =>
          simp only [after?, List.cons_append, List.cons.injEq]
          split
          · rename_i same
            simp [ih, same]
          · rename_i different
            simp [Ne.symm different]

theorem cut?_append {separator text front rest : List Char}
    (h : cut? separator text = some (front, rest)) : text = front ++ separator ++ rest := by
  induction text generalizing front with
  | nil =>
      simp only [cut?, Option.map_eq_some_iff, Prod.mk.injEq] at h
      obtain ⟨found, same, rfl, rfl⟩ := h
      simpa using after?_eq_some_iff.mp same
  | cons c text ih =>
      simp only [cut?] at h
      split at h
      · rename_i found same
        simp only [Option.some.injEq, Prod.mk.injEq] at h
        obtain ⟨rfl, rfl⟩ := h
        simpa using after?_eq_some_iff.mp same
      · simp only [Option.map_eq_some_iff, Prod.mk.injEq] at h
        obtain ⟨parts, found, rfl, rfl⟩ := h
        simp [ih found]

theorem cut?_length_lt {separator text front rest : List Char} (nonempty : separator ≠ [])
    (h : cut? separator text = some (front, rest)) : rest.length < text.length := by
  have size := congrArg List.length (cut?_append h)
  have positive : 0 < separator.length := List.length_pos_iff.mpr nonempty
  simp only [List.length_append] at size
  omega

/-- The parts of a text between the occurrences of a separator, the first part apart. -/
def splitOn (separator : List Char) (nonempty : separator ≠ []) (text : List Char) :
    List Char × List (List Char) :=
  match _found : cut? separator text with
  | none => (text, [])
  | some (front, rest) =>
      let parts := splitOn separator nonempty rest
      (front, parts.1 :: parts.2)
termination_by text.length
decreasing_by exact cut?_length_lt nonempty _found

/-- The parts of a text between the occurrences of one character, the first part apart. -/
def splitAt (separator : Char) : List Char → List Char × List (List Char)
  | [] => ([], [])
  | c :: text =>
      let parts := splitAt separator text
      if c = separator then ([], parts.1 :: parts.2) else (c :: parts.1, parts.2)

/-- Texts joined with a separator between neighbours. -/
def join (separator : List Char) : List (List Char) → List Char
  | [] => []
  | [text] => text
  | text :: next :: texts => text ++ separator ++ join separator (next :: texts)

/-- Splitting at a character loses nothing but the separators, which joining puts back. -/
theorem join_splitAt (separator : Char) (text : List Char) :
    join [separator] ((splitAt separator text).1 :: (splitAt separator text).2) = text := by
  induction text with
  | nil => rfl
  | cons c text ih =>
      simp only [splitAt]
      split
      · rename_i same
        simp [join, ih, same]
      · cases parts : (splitAt separator text).2 with
        | nil =>
            rw [parts] at ih
            simpa [join] using ih
        | cons next more =>
            rw [parts] at ih
            simpa [join] using ih

theorem occurs_iff {needle text : List Char} : occurs needle text = true ↔ needle <:+: text := by
  induction text with
  | nil => simp [occurs]
  | cons c text ih => simp [occurs, ih, List.infix_cons_iff]

end Text
end SignatureSearch
