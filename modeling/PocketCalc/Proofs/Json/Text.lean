import PocketCalc.Json.Record

/-! # Strings are read back

A string is written with escapes for the quotation mark, the backslash and the control characters.
What a reader finds behind the opening quotation mark is the string again, whatever follows the
closing one.

* **`Json.readStringFrom_writeChar`** — one character is read back.
* **`Json.readText_writeString`** — a string is read back. -/

namespace PocketCalc.Json

/-- A hexadecimal digit has its value. -/
theorem hexValue?_hexDigit {value : Nat} (digit : value < 16) :
    hexValue? (hexDigit value) = some value := by
  revert value
  decide

/-- The four digits of an escape have room, since a character takes at least one byte. -/
theorem roomForCode_cons (c₁ c₂ c₃ c₄ : Char) (rest : List Char) :
    roomForCode (c₁ :: c₂ :: c₃ :: c₄ :: rest) = true := by
  have bytes : 4 ≤ byteCount [c₁, c₂, c₃, c₄] := length_le_byteCount [c₁, c₂, c₃, c₄]
  exact decide_eq_true bytes

/-- The code of a control character is no half of a surrogate pair. -/
theorem endCode_control {code : Nat} (control : code < 0x20) :
    endCode false code none = .ok ([Char.ofNat code], .plain) := by
  have first : isFirstHalf code = false := by
    simp only [isFirstHalf, Bool.and_eq_false_iff, decide_eq_false_iff_not]
    omega
  have second : isSecondHalf code = false := by
    simp only [isSecondHalf, Bool.and_eq_false_iff, decide_eq_false_iff_not]
    omega
  simp [endCode, first, second]

/-- A control character is read back from its code. -/
theorem readStringFrom_controlEscape {c : Char} (control : c.toNat < 0x20) (rest : List Char) :
    readStringFrom false .plain (controlEscape c ++ rest) =
      prepend [c] (readStringFrom false .plain rest) := by
  have high : hexValue? (hexDigit (c.toNat / 16)) = some (c.toNat / 16) :=
    hexValue?_hexDigit (by omega)
  have low : hexValue? (hexDigit (c.toNat % 16)) = some (c.toNat % 16) :=
    hexValue?_hexDigit (by omega)
  have zero : hexValue? '0' = some 0 := by decide
  have whole : c.toNat / 16 * 16 + c.toNat % 16 = c.toNat := by omega
  have backslash : '\\' ≠ quotationMark := by decide
  -- Two zeros come before the digits, so the code that is read is that of the character.
  simp only [controlEscape, List.cons_append, List.nil_append, readStringFrom, if_neg backslash,
    ↓reduceIte, roomForCode_cons, zero, high, low, Nat.zero_mul, Nat.zero_add, whole,
    endCode_control control, Char.ofNat_toNat]
  rfl

/-- **One character is read back**, escaped or not. -/
theorem readStringFrom_writeChar (c : Char) (rest : List Char) :
    readStringFrom false .plain (writeChar c ++ rest) =
      prepend [c] (readStringFrom false .plain rest) := by
  unfold writeChar
  -- One case for each short escape, one for the codes, and one for a character as it is.
  split
  · subst c; rfl
  split
  · subst c; rfl
  split
  · subst c; rfl
  split
  · subst c; rfl
  split
  · subst c; rfl
  split
  · subst c; rfl
  split
  · subst c; rfl
  split
  · rename_i control
    exact readStringFrom_controlEscape control rest
  · rename_i noQuote noBackslash _ _ _ _ _ printed
    simp only [List.cons_append, List.nil_append, readStringFrom, if_neg noQuote,
      if_neg noBackslash, if_neg printed]

/-- The characters of a string are read back up to the closing quotation mark. -/
theorem readString_flatMap_writeChar (text rest : List Char) :
    readString (text.flatMap writeChar ++ quotationMark :: rest) = .ok (text, rest) := by
  unfold readString
  induction text with
  | nil => simp [readStringFrom]
  | cons c others ih =>
    rw [List.flatMap_cons, List.append_assoc, readStringFrom_writeChar, ih]
    rfl

/-- **A string is read back**, whatever follows it. -/
theorem readText_writeString (text rest : List Char) :
    readText (writeString text ++ rest) = .ok (text, rest) := by
  have opened : skipSpace (writeString text ++ rest) =
      quotationMark :: (text.flatMap writeChar ++ quotationMark :: rest) := by
    simp only [writeString, List.append_assoc, List.cons_append, List.nil_append]
    rfl
  simp only [readText, opened, ↓reduceIte, readString_flatMap_writeChar]

end PocketCalc.Json
