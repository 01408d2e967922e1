/-! # Blank characters

Expressions may be laid out with any blank of Unicode's `White_Space` property, and a text is
*trimmed* by dropping the blanks at both ends. `isBlank` lists the property's ranges; a text in
this library is a list of characters, the form in which every rule inspects it.

* **`trim_eq_nil_iff`** — a text is trimmed to nothing exactly when all its characters are blank. -/

namespace PocketCalc

/-- A character with Unicode's `White_Space` property. -/
def isBlank (c : Char) : Bool :=
  let code := c.toNat
  (9 ≤ code && code ≤ 13) || code == 0x20 || code == 0x85 || code == 0xA0 || code == 0x1680 ||
    (0x2000 ≤ code && code ≤ 0x200A) || code == 0x2028 || code == 0x2029 || code == 0x202F ||
    code == 0x205F || code == 0x3000

/-- No digit is a blank. -/
theorem isBlank_eq_false_of_isDigit {c : Char} (digit : c.isDigit = true) : isBlank c = false := by
  simp only [Char.isDigit, Bool.and_eq_true, decide_eq_true_eq, UInt32.le_iff_toNat_le] at digit
  have code : 48 ≤ c.toNat ∧ c.toNat ≤ 57 := digit
  simp only [isBlank, Bool.or_eq_false_iff, Bool.and_eq_false_iff, decide_eq_false_iff_not,
    beq_eq_false_iff_ne]
  omega

/-- Drop the blanks at the start and at the end of a text. -/
def trim (text : List Char) : List Char :=
  ((text.dropWhile isBlank).reverse.dropWhile isBlank).reverse

/-- Dropping blanks from the front leaves nothing exactly when there is nothing else. -/
theorem dropWhile_isBlank_eq_nil_iff {text : List Char} :
    text.dropWhile isBlank = [] ↔ ∀ c ∈ text, isBlank c = true := by
  induction text with
  | nil => simp
  | cons c rest ih => by_cases blank : isBlank c = true <;> simp [blank, ih]

/-- Nothing is left of a text exactly when it is all blank. -/
theorem trim_eq_nil_iff {text : List Char} : trim text = [] ↔ ∀ c ∈ text, isBlank c = true := by
  rw [trim, List.reverse_eq_nil_iff, dropWhile_isBlank_eq_nil_iff]
  constructor
  · intro dropped c member
    rw [← List.takeWhile_append_dropWhile (p := isBlank) (l := text)] at member
    rcases List.mem_append.mp member with early | late
    · exact List.all_eq_true.mp List.all_takeWhile c early
    · exact dropped c (List.mem_reverse.mpr late)
  · intro allBlank c member
    exact allBlank c ((List.dropWhile_sublist isBlank).mem (List.mem_reverse.mp member))

end PocketCalc
