import FilterQuery.Numeral.Binary64
import Mathlib.Algebra.Group.Nat.Defs

/-!
# Rounding stays in range

The ordinal of a rounded magnitude counts the binades that its significand is shifted by, and then
the significand, which has 53 bits (`nearestOrdinal_le`). So an integer of 64 bits rounds to a
finite number, far from the greatest one (`isFinite_ofInt`).
-/

namespace FilterQuery.Binary64

theorem roundHalfEven_le (num den : Nat) : roundHalfEven num den ≤ num / den + 1 := by
  unfold roundHalfEven
  simp only
  split
  · exact Nat.le_succ _
  · split
    · exact Nat.le_refl _
    · have hparity : num / den % 2 < 2 := Nat.mod_lt _ (by decide)
      omega

/-- A number shifted to 53 bits has no more than these. -/
theorem div_shift_lt (n : Nat) : n / 2 ^ (n.log2 - 52) < 2 ^ 53 := by
  rw [Nat.div_lt_iff_lt_mul (Nat.two_pow_pos _), ← Nat.pow_add]
  have hbits : n < 2 ^ (n.log2 + 1) := Nat.lt_log2_self
  have hwider : 2 ^ (n.log2 + 1) ≤ 2 ^ (53 + (n.log2 - 52)) :=
    Nat.pow_le_pow_right (by decide) (by omega)
  exact Nat.lt_of_lt_of_le hbits hwider

theorem mul_two_pow_lt {n bits : Nat} (hn : n < 2 ^ bits) (more : Nat) :
    n * Nat.pow 2 more < 2 ^ (bits + more) := by
  rw [Nat.pow_eq, Nat.pow_add]
  exact Nat.mul_lt_mul_of_pos_right hn (Nat.two_pow_pos more)

/-- The ordinal nearest to an integer is bounded through the integer's bits. -/
theorem nearestOrdinal_le {n bits : Nat} (hn : n < 2 ^ bits) :
    nearestOrdinal n 1 ≤ (bits + 1074 - 52) * binade + 2 ^ 53 := by
  have hscaled : n * unitsPerOne < 2 ^ (bits + 1074) := by
    unfold unitsPerOne
    -- with the numeral in place, the power of two would be computed
    generalize 1074 = more
    exact mul_two_pow_lt hn more
  unfold nearestOrdinal
  generalize n * unitsPerOne = scaled at hscaled
  simp only [Nat.div_one, Nat.one_mul, Nat.pow_eq]
  have hshift : scaled.log2 - 52 ≤ bits + 1074 - 52 := by
    apply Nat.sub_le_sub_right
    by_cases hzero : scaled = 0
    · simp [hzero]
    · exact Nat.le_of_lt ((Nat.log2_lt hzero).mpr hscaled)
  have hrounded : roundHalfEven scaled (2 ^ (scaled.log2 - 52)) ≤ 2 ^ 53 :=
    Nat.le_trans (roundHalfEven_le _ _) (div_shift_lt scaled)
  exact Nat.add_le_add (Nat.mul_le_mul_right binade hshift) hrounded

theorem isFinite_ofOrdinal {negative : Bool} {ordinal : Nat} (h : ordinal < infinityOrdinal) :
    (ofOrdinal negative ordinal).isFinite = true := by
  have hmin : min ordinal infinityOrdinal < infinityOrdinal :=
    Nat.lt_of_le_of_lt (Nat.min_le_left ..) h
  exact decide_eq_true hmin

/-- **An integer of 64 bits, with or without sign, rounds to a finite number.** -/
theorem isFinite_ofInt {i : Int} (h : i.natAbs < 2 ^ 65) : (ofInt i).isFinite = true := by
  have hrange : (65 + 1074 - 52) * binade + 2 ^ 53 < infinityOrdinal := by decide
  exact isFinite_ofOrdinal (Nat.lt_of_le_of_lt (nearestOrdinal_le h) hrange)

end FilterQuery.Binary64
