/-! The double nearest to an exact ratio, ties to the even significand. The computation is in
natural numbers throughout; only the finished bit pattern becomes a `Float`. -/
namespace PortableSearch.Decimal

/-- Whether `num / den` is below `2 ^ e`. -/
def belowPower (num den : Nat) (e : Int) : Bool :=
  num * Nat.pow 2 (-e).toNat < den * Nat.pow 2 e.toNat

/-- The exponent of the greatest power of two that does not exceed `num / den`. -/
def binaryExponent (num den : Nat) : Int :=
  let guess : Int := (num.log2 : Int) - (den.log2 : Int)
  if belowPower num den guess then guess - 1 else guess

/-- `num / den` rounded to a whole number, a half to the even neighbour. -/
def roundDiv (num den : Nat) : Nat :=
  let whole := num / den
  let rest := 2 * (num % den)
  if den < rest || (rest == den && whole % 2 == 1) then whole + 1 else whole

/-- The magnitude bits of the double nearest to `num / den`; a ratio beyond the greatest double
gives the bits of infinity. A significand that rounds up to the next power of two carries into
the exponent by the addition alone. -/
def nearestBits (num den : Nat) : Nat :=
  if num = 0 then 0
  else
    let unit := max (binaryExponent num den - 52) (-1074)
    let significand := roundDiv (num * Nat.pow 2 (-unit).toNat) (den * Nat.pow 2 unit.toNat)
    let bits :=
      if significand < Nat.pow 2 52 then significand
      else (unit + 1075).toNat * Nat.pow 2 52 + (significand - Nat.pow 2 52)
    min bits (2047 * Nat.pow 2 52)

/-- The double with a sign and the given magnitude bits. -/
def ofMagnitude (negative : Bool) (bits : Nat) : Float :=
  Float.ofBits (UInt64.ofNat (if negative then Nat.pow 2 63 + bits else bits))

def infinity (negative : Bool) : Float := ofMagnitude negative (2047 * Nat.pow 2 52)

/-- The double that is not a number. -/
def nan : Float := ofMagnitude false (4095 * Nat.pow 2 51)

def nearest (negative : Bool) (num den : Nat) : Float :=
  ofMagnitude negative (nearestBits num den)

/-- The double nearest to an integer, unless its magnitude is beyond every double. -/
def ofInt? (n : Int) : Option Float :=
  let bits := nearestBits n.natAbs 1
  if bits < 2047 * Nat.pow 2 52 then some (ofMagnitude (n < 0) bits) else none

/-- The double nearest to `digits * 10 ^ exponent`. The order of magnitude settles the result
where the power of ten would be too large to be worth writing out. -/
def ofDigits (negative : Bool) (digits : Nat) (exponent : Int) : Float :=
  let order : Int := (Nat.toDigits 10 digits).length + exponent
  if digits = 0 || order < -400 then ofMagnitude negative 0
  else if 400 < order then infinity negative
  else nearest negative (digits * Nat.pow 10 exponent.toNat) (Nat.pow 10 (-exponent).toNat)

end PortableSearch.Decimal
