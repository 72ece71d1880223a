import PortableSearch.Decimal.Shortest

/-! The integer that a double is equal to, if there is one. -/
namespace PortableSearch.Decimal

inductive Whole where
  | integer (n : Int)
  | fraction
  | notFinite
deriving DecidableEq, Repr

/-- Whether a double is an integer, has a fraction, or is no finite number. -/
def Whole.ofFloat (x : Float) : Whole :=
  let bits := x.toBits.toNat
  let magnitude := bits % Nat.pow 2 63
  if 2047 * Nat.pow 2 52 ≤ magnitude then .notFinite
  else
    let b := Binary.ofMagnitude magnitude
    let num := b.significand * Nat.pow 2 b.exponent.toNat
    let den := Nat.pow 2 (-b.exponent).toNat
    if num % den = 0 then
      .integer (if bits < Nat.pow 2 63 then (num / den : Nat) else -((num / den : Nat) : Int))
    else .fraction

end PortableSearch.Decimal
