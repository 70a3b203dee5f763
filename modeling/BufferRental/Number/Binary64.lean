import BufferRental.Number.Shortest

/-! Binary floating-point numbers of 64 bits, kept as their bits: one for the sign, eleven for the
exponent, 52 for the fraction. -/
namespace BufferRental.Number

structure Binary64 where
  bits : UInt64
  deriving DecidableEq

namespace Binary64

def sign (x : Binary64) : Bool := x.bits.toNat >>> 63 == 1

def biasedExponent (x : Binary64) : Nat := (x.bits.toNat >>> 52) % (1 <<< 11)

def fraction (x : Binary64) : Nat := x.bits.toNat % (1 <<< 52)

def isNaN (x : Binary64) : Bool := x.biasedExponent == 2047 && x.fraction != 0

def isInfinite (x : Binary64) : Bool := x.biasedExponent == 2047 && x.fraction == 0

def isZero (x : Binary64) : Bool := x.biasedExponent == 0 && x.fraction == 0

def zero : Binary64 := ⟨0⟩

/-- Equality of numbers: the two zeros are the same, and what is no number differs from
everything, itself included. -/
def same (x y : Binary64) : Bool :=
  !x.isNaN && !y.isNaN && (x.bits == y.bits || (x.isZero && y.isZero))

/-- The whole number and the power of two whose product is the size of a finite number. -/
def significand (x : Binary64) : Nat × Int :=
  if x.biasedExponent = 0 then (x.fraction, -1074)
  else ((1 <<< 52) + x.fraction, x.biasedExponent - 1075)

/-- The numbers nearer to this one than to any other of the format. Towards zero the next number
is only half as far if this one is a power of two. -/
def rounding (x : Binary64) : Rounding :=
  let (m, q) := x.significand
  let step := if x.fraction = 0 && 1 < x.biasedExponent then 1 else 2
  let up := 1 <<< (q - 2).toNat
  ⟨4 * m * up, (4 * m - step) * up, (4 * m + 2) * up, 1 <<< (2 - q).toNat, m % 2 == 0⟩

/-- The number nearest to a natural number; half way between two, the one with an even
significand. -/
def ofNat (n : Nat) : Binary64 :=
  if n = 0 then zero
  else
    let top := n.log2
    let significand :=
      if top ≤ 52 then n <<< (52 - top)
      else
        let unit := 1 <<< (top - 52)
        let floor := n / unit
        if 2 * (n % unit) > unit || (2 * (n % unit) == unit && floor % 2 == 1) then floor + 1
        else floor
    -- A significand that was rounded up to the next power of two carries into the exponent.
    ⟨UInt64.ofNat (((top + 1022) <<< 52) + significand)⟩

end Binary64

def positional (digits : List Char) (exponent : Int) : List Char :=
  if 0 ≤ exponent then digits ++ List.replicate exponent.toNat '0' ++ ['.', '0']
  else
    let places := (-exponent).toNat
    let padded := List.replicate (places + 1 - digits.length) '0' ++ digits
    padded.take (padded.length - places) ++ '.' :: padded.drop (padded.length - places)

/-- One digit before the point, none behind it if there are no more, and a power of ten. -/
def scientific (digits : List Char) (exponent : Int) : List Char :=
  let power := exponent + digits.length - 1
  digits.take 1 ++ (if digits.length = 1 then [] else '.' :: digits.drop 1) ++
    'e' :: (toString power).toList

/-- The text of a number for inspection. Powers of ten from -4 to 15 are written out. -/
def Binary64.text (x : Binary64) : String :=
  let unsigned : List Char :=
    if x.isInfinite then ['i', 'n', 'f']
    else if x.isZero then ['0', '.', '0']
    else
      match x.rounding.shortest? 17 340 with
      | none => []
      | some decimal =>
        let digits := Nat.toDigits 10 decimal.digits
        let power := decimal.exponent + digits.length - 1
        if -4 ≤ power && power ≤ 15 then positional digits decimal.exponent
        else scientific digits decimal.exponent
  if x.isNaN then "NaN" else String.ofList (if x.sign then '-' :: unsigned else unsigned)

end BufferRental.Number
