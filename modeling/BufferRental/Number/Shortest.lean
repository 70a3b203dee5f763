/-! The shortest decimal that stands for a number known to lie in an interval: the fewest digits
of which some lie in the interval, and of those the one nearest to the number. All arithmetic is on
whole numbers. -/
namespace BufferRental.Number

/-- A positive fraction `value / unit` with the bounds of an interval around it, in the same
units. The bounds belong to the interval if it is `closed`. -/
structure Rounding where
  value : Nat
  low : Nat
  high : Nat
  unit : Nat
  closed : Bool

structure Decimal where
  digits : Nat
  exponent : Int
  deriving DecidableEq

/-- The decimal in the units of a fraction, and the factor by which both have to be scaled to stay
whole: `digits * 10 ^ exponent = scaled / (unit * factor)`. -/
def Decimal.scaled (decimal : Decimal) (unit : Nat) : Nat × Nat :=
  (decimal.digits * Nat.pow 10 decimal.exponent.toNat * unit, Nat.pow 10 (-decimal.exponent).toNat)

namespace Rounding

def contains (r : Rounding) (decimal : Decimal) : Bool :=
  let (scaled, factor) := decimal.scaled r.unit
  if r.closed then r.low * factor ≤ scaled && scaled ≤ r.high * factor
  else r.low * factor < scaled && scaled < r.high * factor

/-- The power of ten of the first digit of a fraction that is at least `10 ^ -depth`. -/
def magnitude (r : Rounding) (depth : Nat) : Int :=
  (Nat.toDigits 10 (r.value * Nat.pow 10 depth / r.unit)).length - 1 - depth

def below (r : Rounding) (exponent : Int) : Decimal :=
  ⟨r.value * Nat.pow 10 (-exponent).toNat / (r.unit * Nat.pow 10 exponent.toNat), exponent⟩

/-- Whether the upper of two neighbouring decimals is at least as near as the lower. -/
def upperIsNearer (r : Rounding) (lower : Decimal) : Bool :=
  let (scaled, factor) := Decimal.scaled ⟨2 * lower.digits + 1, lower.exponent⟩ r.unit
  scaled ≤ 2 * r.value * factor

/-- The decimal of the interval that is nearest to the value among those that end at the place
`exponent`; half way between two, the upper one. -/
def nearest? (r : Rounding) (exponent : Int) : Option Decimal :=
  let lower := r.below exponent
  let upper : Decimal := ⟨lower.digits + 1, exponent⟩
  match r.contains lower, r.contains upper with
  | true, true => some (if r.upperIsNearer lower then upper else lower)
  | true, false => some lower
  | false, true => some upper
  | false, false => none

def search (r : Rounding) : Nat → Int → Option Decimal
  | 0, _ => none
  | count + 1, exponent =>
    match r.nearest? exponent with
    | some decimal => some decimal
    | none => search r count (exponent - 1)

end Rounding

def Decimal.trimmed (decimal : Decimal) : Nat → Decimal
  | 0 => decimal
  | fuel + 1 =>
    if decimal.digits != 0 && decimal.digits % 10 == 0 then
      Decimal.trimmed ⟨decimal.digits / 10, decimal.exponent + 1⟩ fuel
    else decimal

/-- The shortest decimal with at most `maxDigits` digits for a fraction of at least
`10 ^ -depth`. -/
def Rounding.shortest? (r : Rounding) (maxDigits depth : Nat) : Option Decimal :=
  (r.search maxDigits (r.magnitude depth)).map (·.trimmed maxDigits)

end BufferRental.Number
