import PocketCalc.Decimal.Basic
import PocketCalc.Binary64.Basic

/-! # The shortest text of a number

Where a number is shown inside an expression it has as few digits as identify it among all binary64
numbers, and never an exponent. A decimal identifies a number when it lies in the interval of
quotients that round to it; the ends belong to the interval when the last significant bit is zero.
The digits are found on coarser decimal grids first: on each grid only the two neighbours of the
number can be hits, the nearer one wins, and an exact tie goes up.

* **`RoundingInterval`** — the quotients that round to a magnitude.
* **`Magnitude.shortest`** — the decimal with the fewest digits in that interval.
* **`Binary64.text`** — the text of a number, also of an infinity. -/

namespace PocketCalc

-- Powers are those of the core library, also where another instance of `Pow` is known.
attribute [local instance (high)] instPowNat

/-- **The quotients that round to a magnitude**, in quarters of a unit. -/
structure RoundingInterval where
  /-- Half-way to the magnitude below. -/
  lower : Nat
  /-- Half-way to the magnitude above. -/
  upper : Nat
  /-- Whether the half-way points themselves round to the magnitude. -/
  closed : Bool
  deriving DecidableEq, Repr

/-- The interval around a magnitude. Below a power of two the neighbours are twice as close. -/
def Magnitude.interval (magnitude : Magnitude) : RoundingInterval :=
  let gap := spacing magnitude.units
  let gapBelow := if magnitude.units = 2 ^ magnitude.units.log2 then (gap + 1) / 2 else gap
  { lower := 4 * magnitude.units - 2 * gapBelow
    upper := 4 * magnitude.units + 2 * gap
    closed := magnitude.units / gap % 2 == 0 }

/-- Whether `numerator / denominator` quarters of a unit lie in the interval. -/
def RoundingInterval.contains (interval : RoundingInterval) (numerator denominator : Nat) : Bool :=
  if interval.closed then
    interval.lower * denominator ≤ numerator && numerator ≤ interval.upper * denominator
  else interval.lower * denominator < numerator && numerator < interval.upper * denominator

/-- The decimal with the given last place, written with one digit if it is a power of ten. -/
def Decimal.normal (significand count : Nat) (place : Int) : Decimal :=
  if significand = 10 ^ count then ⟨1, place + count⟩ else ⟨significand, place⟩

/-- **The hit on the grid of `count` digits**, if there is one: of the grid's two neighbours of the
magnitude, the nearer one that lies in the interval. -/
def Magnitude.hit? (magnitude : Magnitude) (count : Nat) : Option Decimal :=
  let place := decimalExponent magnitude.units unitsPerOne - count + 1
  let up := 10 ^ (-place).toNat
  let down := 10 ^ place.toNat
  let numerator := magnitude.units * up
  let denominator := unitsPerOne * down
  let below := numerator / denominator
  let inside (significand : Nat) : Bool :=
    magnitude.interval.contains (4 * (significand * denominator)) up
  let nearerBelow : Bool := 2 * (numerator % denominator) < denominator
  if inside below && (nearerBelow || !inside (below + 1)) then
    some (Decimal.normal below count place)
  else if inside (below + 1) then some (Decimal.normal (below + 1) count place)
  else none

/-- The exact decimal value: a power of two in the denominator is a power of five above it. -/
def Magnitude.exactDecimal (magnitude : Magnitude) : Decimal :=
  ⟨magnitude.units * 5 ^ unitExponent, -(unitExponent : Int)⟩

/-- **The shortest decimal of a magnitude**: the hit on the first grid that has one. Seventeen
digits always identify a number; the exact value stands behind them. -/
def Magnitude.shortest (magnitude : Magnitude) : Decimal :=
  ((List.range' 1 17).findSome? magnitude.hit?).getD magnitude.exactDecimal

namespace Binary64

/-- **The text of a number** inside an expression. -/
def text : Binary64 → List Char
  | finite negative magnitude =>
    let shown := if magnitude.units = 0 then ['0'] else magnitude.shortest.positional
    if negative then '-' :: shown else shown
  | infinite negative => if negative then ['-', 'i', 'n', 'f'] else ['i', 'n', 'f']
  | nan => ['N', 'a', 'N']

end Binary64

end PocketCalc
