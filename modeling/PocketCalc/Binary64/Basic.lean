import PocketCalc.Binary64.Magnitude

/-! # Binary64 numbers

The calculator computes with the numbers of the IEEE 754 interchange format binary64. A finite
number is a sign and an exact `Magnitude`; every operation computes the exact result on units and
rounds it once, to the nearest number, ties to even. All not-a-number values are one value here,
because nothing the calculator shows tells them apart.

* **`Binary64.ofRatio`** — the number nearest to a quotient of units; infinite when too large.
* **`Binary64.ofBits`, `Binary64.toBits`** — the 64-bit interchange encoding.
* **`Binary64.neg_neg`, `Binary64.neg_mul`** — negation is an involution and leaves a product. -/

namespace PocketCalc

-- Powers are those of the core library, also where another instance of `Pow` is known. For that, a
-- numeral in an exponent has its type written.
attribute [local instance (high)] instPowNat

/-- **A number of the binary64 format.** -/
inductive Binary64 where
  /-- A finite number; zero has two signs. -/
  | finite (negative : Bool) (magnitude : Magnitude)
  /-- An infinity. -/
  | infinite (negative : Bool)
  /-- Not a number. -/
  | nan
  deriving DecidableEq

namespace Binary64

/-- A number that is neither an infinity nor not-a-number. -/
def isFinite : Binary64 → Bool
  | finite _ _ => true
  | _ => false

/-- **Rounding**: the number nearest to `numerator / denominator` units, with the given sign. -/
def ofRatio (negative : Bool) (numerator denominator : Nat) : Binary64 :=
  match Magnitude.nearest? numerator denominator with
  | some magnitude => finite negative magnitude
  | none => infinite negative

/-- A finite number is what its own units round to. -/
theorem ofRatio_units (negative : Bool) (magnitude : Magnitude) :
    ofRatio negative magnitude.units 1 = finite negative magnitude := by
  simp [ofRatio, Magnitude.nearest?_units]

/-- The zero of a sign. -/
def zero (negative : Bool) : Binary64 := finite negative Magnitude.zero

/-- The number nearest to a natural number. -/
def ofNat (value : Nat) : Binary64 := ofRatio false (value * unitsPerOne) 1

/-- The number nearest to `significand / 10 ^ places`. -/
def ofDecimal (significand places : Nat) : Binary64 :=
  ofRatio false (significand * unitsPerOne) (10 ^ places)

/-! ## Arithmetic -/

/-- The opposite number. -/
def neg : Binary64 → Binary64
  | finite negative magnitude => finite (!negative) magnitude
  | infinite negative => infinite (!negative)
  | nan => nan

instance : Neg Binary64 := ⟨neg⟩

/-- Negating twice changes nothing. -/
@[simp] theorem neg_neg (x : Binary64) : -(-x) = x := by
  cases x <;> simp [Neg.neg, neg]

/-- The units of a finite number with its sign. -/
def signedUnits (negative : Bool) (magnitude : Magnitude) : Int :=
  if negative then -(magnitude.units : Int) else magnitude.units

/-- The sum of two numbers. A zero sum is positive unless both terms are negative. -/
def add : Binary64 → Binary64 → Binary64
  | nan, _ => nan
  | _, nan => nan
  | infinite left, infinite right => if left = right then infinite left else nan
  | infinite left, finite _ _ => infinite left
  | finite _ _, infinite right => infinite right
  | finite left a, finite right b =>
    let sum := signedUnits left a + signedUnits right b
    if sum = 0 then zero (left && right) else ofRatio (sum < 0) sum.natAbs 1

instance : Add Binary64 := ⟨add⟩

/-- The difference of two numbers: the sum with the opposite. -/
def sub (x y : Binary64) : Binary64 := add x (neg y)

instance : Sub Binary64 := ⟨sub⟩

/-- The product of two numbers. An infinity times zero is not a number. -/
def mul : Binary64 → Binary64 → Binary64
  | nan, _ => nan
  | _, nan => nan
  | infinite left, infinite right => infinite (left != right)
  | infinite left, finite right b => if b.units = 0 then nan else infinite (left != right)
  | finite left a, infinite right => if a.units = 0 then nan else infinite (left != right)
  | finite left a, finite right b => ofRatio (left != right) (a.units * b.units) unitsPerOne

instance : Mul Binary64 := ⟨mul⟩

/-- A sign in front of a factor is a sign in front of the product. -/
theorem neg_mul (x y : Binary64) : -x * y = -(x * y) := by
  have flip (sign : Bool) (numerator denominator : Nat) :
      ofRatio (!sign) numerator denominator = neg (ofRatio sign numerator denominator) := by
    unfold ofRatio
    split <;> rfl
  have flipInfinite (zeroFactor : Prop) [Decidable zeroFactor] (sign : Bool) :
      (if zeroFactor then nan else infinite (!sign)) =
        neg (if zeroFactor then nan else infinite sign) := by
    split <;> rfl
  change mul (neg x) y = neg (mul x y)
  cases x <;> cases y <;> simp only [neg, mul, Bool.not_bne, flip, flipInfinite]

/-- The quotient of two numbers. A number over zero is infinite, zero over zero not a number. -/
def div : Binary64 → Binary64 → Binary64
  | nan, _ => nan
  | _, nan => nan
  | infinite _, infinite _ => nan
  | infinite left, finite right _ => infinite (left != right)
  | finite left _, infinite right => zero (left != right)
  | finite left a, finite right b =>
    if b.units = 0 then
      if a.units = 0 then nan else infinite (left != right)
    else ofRatio (left != right) (a.units * unitsPerOne) b.units

instance : Div Binary64 := ⟨div⟩

/-- **Strict order**; nothing is before or after not-a-number, and the two zeros are equal. -/
def less : Binary64 → Binary64 → Bool
  | nan, _ => false
  | _, nan => false
  | infinite left, infinite right => left && !right
  | infinite left, finite _ _ => left
  | finite _ _, infinite right => !right
  | finite left a, finite right b => signedUnits left a < signedUnits right b

instance : LT Binary64 := ⟨fun x y => less x y = true⟩

instance (x y : Binary64) : Decidable (x < y) := inferInstanceAs (Decidable (less x y = true))

instance : Zero Binary64 := ⟨zero false⟩

/-! ## The interchange encoding -/

/-- The bits of a magnitude: biased exponent and fraction. Both are read off the 53 leading bits,
which carry into the exponent field by themselves. -/
def magnitudeBits (magnitude : Magnitude) : Nat :=
  let shift := magnitude.units.log2 - 52
  shift * 2 ^ (52 : Nat) + magnitude.units / 2 ^ shift

/-- **The 64 bits of a number**, as a natural number: sign, exponent, fraction. -/
def toBits : Binary64 → Nat
  | finite negative magnitude => (if negative then 2 ^ (63 : Nat) else 0) + magnitudeBits magnitude
  | infinite negative => (if negative then 2 ^ (63 : Nat) else 0) + 2047 * 2 ^ (52 : Nat)
  | nan => 2047 * 2 ^ (52 : Nat) + 2 ^ (51 : Nat)

/-- The magnitude whose significand has at most 53 bits and is shifted left by less than 2046. -/
def shifted (significand shift : Nat) (narrow : significand < 2 ^ (53 : Nat))
    (short : shift < 2046) : Magnitude where
  units := significand * 2 ^ shift
  aligned := spacing_dvd_shifted (Nat.le_of_lt narrow) shift
  bounded := by
    refine Nat.lt_of_lt_of_le (Nat.mul_lt_mul_of_pos_right narrow (Nat.two_pow_pos shift)) ?_
    rw [unitsLimit, ← Nat.pow_add]
    exact Nat.pow_le_pow_right (by decide) (by rw [unitExponent_eq]; omega)

/-- **The number that 64 bits encode**; the bits above them are not looked at. -/
def ofBits (bits : Nat) : Binary64 :=
  let negative := bits / 2 ^ (63 : Nat) % 2 == 1
  let exponent := bits / 2 ^ (52 : Nat) % 2 ^ (11 : Nat)
  let fraction := bits % 2 ^ (52 : Nat)
  have fraction_lt : fraction < 2 ^ (52 : Nat) := Nat.mod_lt _ (Nat.two_pow_pos 52)
  if exponent = 0 then
    finite negative (shifted fraction 0 (by omega) (by decide))
  else if ordinary : exponent < 2047 then
    finite negative (shifted (2 ^ (52 : Nat) + fraction) (exponent - 1) (by omega) (by omega))
  else if fraction = 0 then infinite negative
  else nan

end Binary64

end PocketCalc
