/-! # Hexadecimal digits

Escapes of several formats write characters by hexadecimal digits of either case.

* **`hexValue?`** — the value of a digit.
* **`hexValue?_lt`** — it is less than sixteen. -/

namespace PocketCalc

/-- The value of a hexadecimal digit of either case. -/
def hexValue? (c : Char) : Option Nat :=
  if c.isDigit then some (c.toNat - '0'.toNat)
  else if 'a' ≤ c && c ≤ 'f' then some (c.toNat - 'a'.toNat + 10)
  else if 'A' ≤ c && c ≤ 'F' then some (c.toNat - 'A'.toNat + 10)
  else none

/-- A digit is worth less than sixteen. -/
theorem hexValue?_lt {c : Char} {value : Nat} (h : hexValue? c = some value) : value < 16 := by
  simp only [hexValue?, Char.isDigit, Bool.and_eq_true, decide_eq_true_eq, Char.le_def,
    UInt32.le_iff_toNat_le] at h
  simp only [Char.toNat] at h
  split at h
  · rename_i digit
    have upper : c.val.toNat ≤ 57 := digit.2
    simp only [Option.some.injEq] at h
    have zero : '0'.val.toNat = 48 := rfl
    omega
  · split at h
    · rename_i lower
      have upper : c.val.toNat ≤ 102 := lower.2
      simp only [Option.some.injEq] at h
      have first : 'a'.val.toNat = 97 := rfl
      omega
    · split at h
      · rename_i capital
        have upper : c.val.toNat ≤ 70 := capital.2
        simp only [Option.some.injEq] at h
        have first : 'A'.val.toNat = 65 := rfl
        omega
      · cases h

end PocketCalc
