import FilterQuery.Proofs.Numeral.Rounding
import Mathlib.Order.Monotone.Basic

/-!
# Rounding to the nearest magnitude

Magnitudes are counted in the smallest of them, and an ordinal stands for the count
`units ordinal`. Rounding a count keeps order (`nearest_mono`) and leaves magnitudes as they are
(`nearest_units`). So ordinals are ordered as their magnitudes are (`units_strictMono`), and no
count is on one side of a magnitude before it is rounded and on the other side after.

A count of at most 53 bits, however often it is doubled, is a magnitude (`exists_units_eq`). Any
other one is moved by half a step at most, where a step is worth the bits from the 54th on
(`units_nearest_near`).
-/

namespace FilterQuery.Binary64

/-- The ordinal of the magnitude nearest to a count, the even one of two that are equally near. -/
def nearest (count : Nat) : Nat :=
  (count.log2 - 52) * binade + roundHalfEven count (2 ^ (count.log2 - 52))

theorem nearestOrdinal_one (n : Nat) : nearestOrdinal n 1 = nearest (n * unitsPerOne) := by
  unfold nearestOrdinal nearest
  generalize n * unitsPerOne = count
  simp only [Nat.div_one, Nat.one_mul, Nat.pow_eq]

/-! ### Quotients -/

/-- A quotient is rounded to one of the two integers around it, and not to the farther one. -/
theorem roundHalfEven_cases (num den : Nat) :
    (roundHalfEven num den = num / den ∧ 2 * (num % den) ≤ den) ∨
      (roundHalfEven num den = num / den + 1 ∧ den ≤ 2 * (num % den)) := by
  have hparity : num / den % 2 = 0 ∨ num / den % 2 = 1 := Nat.mod_two_eq_zero_or_one _
  unfold roundHalfEven
  simp only
  split
  · exact .inl ⟨rfl, by omega⟩
  · split
    · exact .inr ⟨rfl, by omega⟩
    · rcases hparity with heven | hodd
      · exact .inl ⟨by omega, by omega⟩
      · exact .inr ⟨by omega, by omega⟩

theorem roundHalfEven_mono {den a b : Nat} (h : a ≤ b) :
    roundHalfEven a den ≤ roundHalfEven b den := by
  rcases Nat.lt_or_eq_of_le h with hlt | rfl
  · have hquotient : a / den ≤ b / den := Nat.div_le_div_right h
    have ha := Nat.div_add_mod a den
    have hb := Nat.div_add_mod b den
    have hcases := roundHalfEven_cases a den
    have hcases' := roundHalfEven_cases b den
    rcases Nat.lt_or_eq_of_le hquotient with hless | hsame
    · omega
    · -- with one quotient, the greater remainder decides
      rw [hsame] at ha hcases
      omega
  · exact Nat.le_refl _

theorem roundHalfEven_mul (q : Nat) {den : Nat} (hden : 0 < den) :
    roundHalfEven (q * den) den = q := by
  simp [roundHalfEven, Nat.mul_div_cancel q hden, hden]

theorem roundHalfEven_mul_right (num den : Nat) {k : Nat} (hk : 0 < k) :
    roundHalfEven (num * k) (den * k) = roundHalfEven num den := by
  have hscale : 2 * (num % den * k) = 2 * (num % den) * k := (Nat.mul_assoc _ _ _).symm
  simp only [roundHalfEven, Nat.mul_div_mul_right _ _ hk, Nat.mul_mod_mul_right, hscale,
    Nat.mul_lt_mul_right hk]

/-- What is rounded moves by half the divisor at most. -/
theorem roundHalfEven_near (num : Nat) {den : Nat} (hden : 0 < den) :
    2 * num ≤ 2 * (roundHalfEven num den * den) + den ∧
      2 * (roundHalfEven num den * den) ≤ 2 * num + den := by
  have hnum := Nat.div_add_mod num den
  have hmod := Nat.mod_lt num hden
  rw [Nat.mul_comm] at hnum
  rcases roundHalfEven_cases num den with ⟨hdown, hrest⟩ | ⟨hup, hrest⟩
  · rw [hdown]
    omega
  · have hsucc : (num / den + 1) * den = num / den * den + den := Nat.succ_mul _ _
    rw [hup, hsucc]
    omega

/-! ### Rounding -/

/-- Above 53 bits, a shifted count still has 53. -/
theorem binade_le_div_shift {count : Nat} (h : 0 < count.log2 - 52) :
    binade ≤ count / 2 ^ (count.log2 - 52) := by
  have hne : count ≠ 0 := by
    rintro rfl
    simp at h
  have hlog : 52 + (count.log2 - 52) = count.log2 := by omega
  show 2 ^ 52 ≤ _
  rw [Nat.le_div_iff_mul_le (Nat.two_pow_pos _), ← Nat.pow_add, hlog]
  exact Nat.log2_self_le hne

/-- The significand that a count is rounded to: of 53 bits or, where nothing is shifted, fewer. All
53 may carry over. -/
theorem roundHalfEven_bounds (count : Nat) :
    roundHalfEven count (2 ^ (count.log2 - 52)) ≤ 2 * binade ∧
      (count.log2 - 52 = 0 ∨ binade ≤ roundHalfEven count (2 ^ (count.log2 - 52))) := by
  have hcases := roundHalfEven_cases count (2 ^ (count.log2 - 52))
  have hhigh : count / 2 ^ (count.log2 - 52) < 2 * binade := div_shift_lt count
  constructor
  · omega
  · rcases Nat.eq_zero_or_pos (count.log2 - 52) with hzero | hpos
    · exact .inl hzero
    · have hlow := binade_le_div_shift hpos
      exact .inr (by omega)

theorem log2_le_log2 {a b : Nat} (h : a ≤ b) : a.log2 ≤ b.log2 := by
  rcases Nat.eq_zero_or_pos a with rfl | ha
  · simp
  · have hb : b ≠ 0 := by omega
    exact (Nat.le_log2 hb).mpr (Nat.le_trans (Nat.log2_self_le (by omega)) h)

/-- **Rounding keeps order.** -/
theorem nearest_mono : Monotone nearest := by
  intro a b h
  have hshift : a.log2 - 52 ≤ b.log2 - 52 := Nat.sub_le_sub_right (log2_le_log2 h) 52
  unfold nearest
  rcases Nat.lt_or_eq_of_le hshift with hlt | heq
  · -- the significand is doubled once more at least, which makes up for any carry
    have ha := (roundHalfEven_bounds a).1
    have hb := (roundHalfEven_bounds b).2.resolve_left (by omega)
    have hstep : (a.log2 - 52 + 1) * binade ≤ (b.log2 - 52) * binade :=
      Nat.mul_le_mul_right binade hlt
    rw [Nat.succ_mul] at hstep
    omega
  · rw [heq]
    exact Nat.add_le_add_left (roundHalfEven_mono h) _

/-! ### Magnitudes -/

/-- A significand that is doubled: all bits are in use, or nothing is doubled. -/
def Normal (q s : Nat) : Prop :=
  s = 0 ∨ binade ≤ q

/-- The magnitude of a significand that is doubled `s` times. -/
theorem units_add {q s : Nat} (hq : q ≤ 2 * binade) (h : Normal q s) :
    units (s * binade + q) = q * 2 ^ s := by
  have hbinade : 0 < binade := by decide
  have hcomm : s * binade + q = q + binade * s := by rw [Nat.mul_comm, Nat.add_comm]
  rw [hcomm, units, significand, doublings, Nat.add_mul_div_left _ _ hbinade,
    Nat.add_mul_mod_self_left, Nat.pow_eq]
  rcases Nat.lt_or_ge q binade with hlow | hlow
  · obtain rfl : s = 0 := h.resolve_right (by omega)
    simp [hlow, Nat.div_eq_of_lt hlow]
  · have hbeyond : ¬ q + binade * s < binade := by omega
    rw [if_neg hbeyond]
    rcases Nat.lt_or_eq_of_le hq with hlt | rfl
    · have hdiv : q / binade = 1 := Nat.div_eq_of_lt_le (by omega) (by omega)
      have hdoublings : q / binade + s - 1 = s := by omega
      have hsignificand : binade + q % binade = q := by
        rw [Nat.mod_eq_sub_mod hlow, Nat.mod_eq_of_lt (by omega)]
        omega
      rw [hdoublings, hsignificand]
    · -- the carry is a significand of its own, doubled once more
      have hdiv : 2 * binade / binade = 2 := Nat.mul_div_cancel _ hbinade
      have hdoublings : 2 + s - 1 = s + 1 := by omega
      rw [hdiv, Nat.mul_mod_left, Nat.add_zero, hdoublings, Nat.pow_succ, Nat.mul_comm 2 binade,
        Nat.mul_assoc, Nat.mul_comm 2]

/-- Every ordinal is that of a significand that is doubled. -/
theorem exists_normal (ordinal : Nat) :
    ∃ q s, q < 2 * binade ∧ Normal q s ∧ ordinal = s * binade + q := by
  have hbinade : 0 < binade := by decide
  rcases Nat.lt_or_ge ordinal binade with hlow | hlow
  · exact ⟨ordinal, 0, by omega, .inl rfl, by omega⟩
  · have hdiv := Nat.div_add_mod ordinal binade
    have hmod := Nat.mod_lt ordinal hbinade
    have hquotient : 0 < ordinal / binade := Nat.div_pos hlow hbinade
    refine ⟨binade + ordinal % binade, ordinal / binade - 1, by omega, .inr (by omega), ?_⟩
    have hpred : (ordinal / binade - 1) * binade + binade = ordinal / binade * binade := by
      rw [← Nat.succ_mul]
      congr 1
      omega
    rw [Nat.mul_comm] at hdiv
    omega

theorem log2_mul_two_pow {q s : Nat} (hq : q < 2 * binade) (h : Normal q s) :
    (q * 2 ^ s).log2 - 52 = s := by
  rcases Nat.eq_zero_or_pos q with rfl | hpos
  · have hzero : s = 0 := h.resolve_right (by decide)
    simp [hzero]
  · have hne : q * 2 ^ s ≠ 0 := Nat.mul_ne_zero (by omega) (Nat.two_pow_pos s).ne'
    have hhigh : (q * 2 ^ s).log2 < 53 + s := by
      rw [Nat.log2_lt hne, Nat.pow_add]
      exact Nat.mul_lt_mul_of_pos_right hq (Nat.two_pow_pos s)
    rcases h with rfl | hlow
    · omega
    · have hlow : 52 + s ≤ (q * 2 ^ s).log2 := by
        rw [Nat.le_log2 hne, Nat.pow_add]
        exact Nat.mul_le_mul_right _ hlow
      omega

/-- **A magnitude is nearest to itself.** -/
theorem nearest_units (ordinal : Nat) : nearest (units ordinal) = ordinal := by
  obtain ⟨q, s, hq, hnormal, rfl⟩ := exists_normal ordinal
  rw [units_add (Nat.le_of_lt hq) hnormal, nearest, log2_mul_two_pow hq hnormal,
    roundHalfEven_mul q (Nat.two_pow_pos s)]

/-- **Ordinals are ordered as their magnitudes.** -/
theorem units_strictMono : StrictMono units := by
  intro a b h
  apply Nat.lt_of_not_le
  intro hle
  have hba := nearest_mono hle
  rw [nearest_units, nearest_units] at hba
  omega

theorem units_zero : units 0 = 0 := by decide

theorem nearest_zero : nearest 0 = 0 := by decide

/-- A count of at most 53 bits is a magnitude, however often it is doubled. -/
theorem exists_units_eq {q : Nat} (s : Nat) (hq : q < 2 * binade) :
    ∃ ordinal, units ordinal = q * 2 ^ s := by
  induction s generalizing q with
  | zero => exact ⟨_, units_add (Nat.le_of_lt hq) (.inl rfl)⟩
  | succ s ih =>
    rcases Nat.lt_or_ge q binade with hlow | hlow
    · -- a bit is free, so the first doubling goes into the significand
      obtain ⟨ordinal, h⟩ := ih (q := 2 * q) (by omega)
      exact ⟨ordinal, by rw [h, Nat.pow_succ, Nat.mul_comm 2 q, Nat.mul_assoc, Nat.mul_comm 2]⟩
    · exact ⟨_, units_add (Nat.le_of_lt hq) (.inr hlow)⟩

/-- A rounded count is moved by half a step at most. -/
theorem units_nearest_near (count : Nat) :
    2 * count ≤ 2 * units (nearest count) + 2 ^ (count.log2 - 52) ∧
      2 * units (nearest count) ≤ 2 * count + 2 ^ (count.log2 - 52) := by
  obtain ⟨hhigh, hnormal⟩ := roundHalfEven_bounds count
  rw [nearest, units_add hhigh hnormal]
  exact roundHalfEven_near count (Nat.two_pow_pos _)

end FilterQuery.Binary64
