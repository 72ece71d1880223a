import PortableSearch.Decimal.Nearest

/-! Doubles of integers. The significand of a rounded ratio has at most one bit more than its
estimate, so an integer of 64 bits is far from the end of the doubles. -/
namespace PortableSearch.Decimal

theorem roundDiv_le (num den : Nat) : roundDiv num den ≤ num / den + 1 := by
  unfold roundDiv
  dsimp only
  split <;> omega

/-- The estimate of the exponent is wrong by one at most. -/
theorem binaryExponent_one (num : Nat) :
    (num.log2 : Int) - 1 ≤ binaryExponent num 1 ∧ binaryExponent num 1 ≤ num.log2 := by
  have one : Nat.log2 1 = 0 := by decide
  simp only [binaryExponent, one]
  split <;> omega

/-- A number of so many units has at most 54 bits. -/
theorem roundDiv_unit {num : Nat} {unit : Int} (bound : (num.log2 : Int) ≤ unit + 53) :
    roundDiv (num * Nat.pow 2 (-unit).toNat) (1 * Nat.pow 2 unit.toNat) ≤ Nat.pow 2 54 := by
  have size : num < 2 ^ (num.log2 + 1) := Nat.lt_log2_self
  have exponent : num.log2 + 1 + (-unit).toNat ≤ 54 + unit.toNat := by omega
  have product : num * 2 ^ (-unit).toNat < 2 ^ unit.toNat * 2 ^ 54 := by
    calc num * 2 ^ (-unit).toNat
        < 2 ^ (num.log2 + 1) * 2 ^ (-unit).toNat :=
          Nat.mul_lt_mul_of_pos_right size (Nat.two_pow_pos _)
      _ = 2 ^ (num.log2 + 1 + (-unit).toNat) := (Nat.pow_add ..).symm
      _ ≤ 2 ^ (54 + unit.toNat) := Nat.pow_le_pow_right (by decide) exponent
      _ = 2 ^ unit.toNat * 2 ^ 54 := by rw [Nat.pow_add, Nat.mul_comm]
  have quotient : num * 2 ^ (-unit).toNat / (1 * 2 ^ unit.toNat) < 2 ^ 54 := by
    rw [Nat.one_mul]
    exact Nat.div_lt_of_lt_mul product
  exact Nat.le_trans (roundDiv_le _ _) quotient

theorem nearestBits_lt {num : Nat} (small : num < Nat.pow 2 64) :
    nearestBits num 1 < 2047 * Nat.pow 2 52 := by
  have unit52 : Nat.pow 2 52 = 4503599627370496 := by decide
  have unit54 : Nat.pow 2 54 = 4 * 4503599627370496 := by decide
  unfold nearestBits
  split
  · rw [unit52]
    decide
  · rename_i positive
    have log : num.log2 < 64 := (Nat.log2_lt positive).mpr small
    obtain ⟨least, most⟩ := binaryExponent_one num
    have unit : max (binaryExponent num 1 - 52) (-1074) = binaryExponent num 1 - 52 := by omega
    have bound : (num.log2 : Int) ≤ binaryExponent num 1 - 52 + 53 := by omega
    have significand := roundDiv_unit bound
    simp only [unit]
    generalize roundDiv _ _ = s at significand ⊢
    rw [unit54] at significand
    rw [unit52]
    split <;> omega

/-- Every integer of 64 bits has a double. -/
theorem ofInt?_eq_some {n : Int} (small : n.natAbs < Nat.pow 2 64) : ∃ x, ofInt? n = some x := by
  simp only [ofInt?, if_pos (nearestBits_lt small)]
  exact ⟨_, rfl⟩

end PortableSearch.Decimal
