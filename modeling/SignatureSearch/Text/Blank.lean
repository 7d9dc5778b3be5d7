/-!
# Blank characters

The blank characters of Unicode text, and the parts of a text that are left when blanks are taken
off its ends.  A character is blank when it separates words: the space separators, the line and
paragraph separators, and the control characters that break a line or separate a field.
-/

namespace SignatureSearch
namespace Text

/-- The blank characters by code point, as closed ranges in increasing order. -/
def blankRanges : List (Nat × Nat) :=
  [(0x09, 0x0D), (0x1C, 0x20), (0x85, 0x85), (0xA0, 0xA0), (0x1680, 0x1680), (0x2000, 0x200A),
    (0x2028, 0x2029), (0x202F, 0x202F), (0x205F, 0x205F), (0x3000, 0x3000)]

/-- Whether a character separates words. -/
def isBlank (c : Char) : Bool :=
  blankRanges.any fun range => range.1 ≤ c.toNat && c.toNat ≤ range.2

/-- Blank characters other than the four field separators of ASCII. -/
def isSpace (c : Char) : Bool :=
  isBlank c && !(0x1C ≤ c.toNat && c.toNat ≤ 0x1F)

/-- A text without the blanks before its first word. -/
def trimLeft (text : List Char) : List Char :=
  text.dropWhile isBlank

/-- A text without the blanks after its last word. -/
def trimRight (text : List Char) : List Char :=
  (text.reverse.dropWhile isBlank).reverse

/-- A text without the blanks at either end. -/
def trim (text : List Char) : List Char :=
  trimRight (trimLeft text)

/-- Whether a text holds no word. -/
def isAllBlank (text : List Char) : Bool :=
  text.all isBlank

/-- The first word of a text that starts with one. -/
def firstWord (text : List Char) : List Char :=
  text.takeWhile (!isBlank ·)

/-- No letter or digit of ASCII is blank. -/
theorem isBlank_eq_false_of_isAlphanum {c : Char} (h : c.isAlphanum = true) :
    isBlank c = false := by
  have range : 48 ≤ c.toNat ∧ c.toNat ≤ 122 := by
    change (((decide ('A'.val ≤ c.val ∧ c.val ≤ 'Z'.val) ||
      (decide ('a'.val ≤ c.val) && decide (c.val ≤ 'z'.val))) ||
      (decide ('0'.val ≤ c.val) && decide (c.val ≤ '9'.val)))) = true at h
    simp only [Bool.or_eq_true, Bool.and_eq_true, decide_eq_true_eq] at h
    rcases h with (⟨low, high⟩ | ⟨low, high⟩) | ⟨low, high⟩
    · exact ⟨Nat.le_trans (by decide) low, Nat.le_trans high (by decide)⟩
    · exact ⟨Nat.le_trans (by decide) low, high⟩
    · exact ⟨low, Nat.le_trans high (by decide)⟩
  simp only [isBlank, blankRanges, List.any_cons, List.any_nil, Bool.or_false,
    Bool.or_eq_false_iff, Bool.and_eq_false_iff, decide_eq_false_iff_not]
  omega

@[simp]
theorem trimLeft_nil : trimLeft [] = [] := rfl

@[simp]
theorem trimRight_nil : trimRight [] = [] := rfl

@[simp]
theorem trim_nil : trim [] = [] := rfl

theorem trimLeft_eq_nil_iff {text : List Char} : trimLeft text = [] ↔ isAllBlank text = true := by
  induction text with
  | nil => simp [isAllBlank]
  | cons c text ih =>
      simp only [trimLeft, isAllBlank] at ih
      cases blank : isBlank c <;> simp [trimLeft, isAllBlank, blank, ih]

theorem trimRight_eq_nil_iff {text : List Char} :
    trimRight text = [] ↔ isAllBlank text = true := by
  rw [trimRight, List.reverse_eq_nil_iff]
  refine (@trimLeft_eq_nil_iff text.reverse).trans ?_
  rw [isAllBlank, isAllBlank, List.all_reverse]

end Text
end SignatureSearch
