import FilterQuery.Proofs.Numeral.Nearest
import Mathlib.Algebra.Order.Field.Rat
import Mathlib.Data.Rat.Cast.Order
import Mathlib.Order.Compare

/-!
# Integers beside doubles

A finite double is a rational number (`Binary64.value?`), and doubles are ordered as these numbers
are (`compare?_eq_compare`). An integer meets a double as the double nearest to it. Rounding keeps
order, so the answer is never the wrong way round: it is the exact one, or the two are taken for
equal (`compare?_ofInt_cases`). An integer of at most 53 bits is a double itself and always gets the
exact answer (`value?_ofInt`).

Of two integers, rounding likewise keeps the order (`place_ofInt_mono`), and it makes one of two
that fit 64 bits only if they are no more than 2048 apart (`natAbs_sub_le_of_agrees`). The total
order of doubles, which sorts use, only tells more of them apart (`compare_rank_of_compare?`).
-/

namespace FilterQuery.Binary64

/-! ### Both sides of zero -/

/-- A function of magnitudes, on both sides of zero. -/
def signed (f : Nat → Nat) : Int → Int
  | .ofNat n => f n
  | .negSucc n => -(f (n + 1) : Int)

theorem signed_natCast (f : Nat → Nat) (n : Nat) : signed f n = f n := rfl

theorem signed_neg {f : Nat → Nat} (hf : f 0 = 0) (n : Nat) : signed f (-n) = -(f n : Int) := by
  cases n with
  | zero => simp [signed, hf]
  | succ n => rfl

theorem signed_mono {f : Nat → Nat} (hzero : f 0 = 0) (hf : Monotone f) {a b : Int} (h : a ≤ b) :
    signed f a ≤ signed f b := by
  obtain ⟨m, rfl | rfl⟩ := Int.eq_nat_or_neg a <;> obtain ⟨n, rfl | rfl⟩ := Int.eq_nat_or_neg b
  · have hle : f m ≤ f n := hf (by omega)
    simpa only [signed_natCast, Int.ofNat_le] using hle
  · obtain ⟨rfl, rfl⟩ : m = 0 ∧ n = 0 := by omega
    exact Int.le_refl _
  · rw [signed_neg hzero, signed_natCast]
    omega
  · have hle : f n ≤ f m := hf (by omega)
    rw [signed_neg hzero, signed_neg hzero]
    omega

theorem signed_strictMono {f : Nat → Nat} (hzero : f 0 = 0) (hf : StrictMono f) {a b : Int}
    (h : a < b) : signed f a < signed f b := by
  obtain ⟨m, rfl | rfl⟩ := Int.eq_nat_or_neg a <;> obtain ⟨n, rfl | rfl⟩ := Int.eq_nat_or_neg b
  · have hlt : f m < f n := hf (by omega)
    simpa only [signed_natCast, Int.ofNat_lt] using hlt
  · omega
  · rw [signed_neg hzero, signed_natCast]
    rcases Nat.eq_zero_or_pos m with rfl | hm
    · have hpos : f 0 < f n := hf (by omega)
      omega
    · have hpos : f 0 < f m := hf hm
      omega
  · have hlt : f n < f m := hf (by omega)
    rw [signed_neg hzero, signed_neg hzero]
    omega

theorem signed_nearest_units (p : Int) : signed nearest (signed units p) = p := by
  obtain ⟨n, rfl | rfl⟩ := Int.eq_nat_or_neg p
  · rw [signed_natCast, signed_natCast, nearest_units]
  · rw [signed_neg units_zero, signed_neg nearest_zero, nearest_units]

theorem signed_nearest_mono {a b : Int} (h : a ≤ b) : signed nearest a ≤ signed nearest b :=
  signed_mono nearest_zero nearest_mono h

theorem signed_units_strictMono {a b : Int} (h : a < b) : signed units a < signed units b :=
  signed_strictMono units_zero units_strictMono h

/-- A rounded count is moved by half a step at most. -/
theorem signed_units_nearest_near (count : Int) :
    (2 * count - 2 * signed units (signed nearest count)).natAbs ≤
      2 ^ (count.natAbs.log2 - 52) := by
  obtain ⟨n, rfl | rfl⟩ := Int.eq_nat_or_neg count
  · have hnear := units_nearest_near n
    rw [signed_natCast, signed_natCast, Int.natAbs_natCast]
    omega
  · have hnear := units_nearest_near n
    rw [signed_neg nearest_zero, signed_neg units_zero, Int.natAbs_neg, Int.natAbs_natCast]
    omega

/-! ### Places -/

/-- The place of a number on the number line. -/
def place? : Binary64 → Option Int
  | .nan => none
  | .number negative ordinal _ => some (place negative ordinal)

theorem compare?_of_place? {x y : Binary64} {p q : Int} (hx : x.place? = some p)
    (hy : y.place? = some q) : x.compare? y = some (compare p q) := by
  cases x with
  | nan => cases hx
  | number s a _ =>
    cases y with
    | nan => cases hy
    | number t b _ => rw [compare?, Option.some.inj hx, Option.some.inj hy]

theorem compare?_eq_none_iff {x y : Binary64} : x.compare? y = none ↔ x = .nan ∨ y = .nan := by
  cases x <;> cases y <;> simp [compare?]

theorem agrees_iff_of_place? {x y : Binary64} {p q : Int} (hx : x.place? = some p)
    (hy : y.place? = some q) : x.agrees y = true ↔ p = q := by
  rw [agrees, compare?_of_place? hx hy, beq_iff_eq, Option.some.injEq, Int.compare_eq_eq]

theorem isFinite_iff {x : Binary64} :
    x.isFinite = true ↔ ∃ p, x.place? = some p ∧ p.natAbs < infinityOrdinal := by
  cases x with
  | nan => simp [isFinite, place?]
  | number negative ordinal _ => cases negative <;> simp [isFinite, place?, place]

/-- The last places are those of the infinities. -/
def clamp (p : Int) : Int :=
  max (-infinityOrdinal) (min p infinityOrdinal)

theorem clamp_mono {p q : Int} (h : p ≤ q) : clamp p ≤ clamp q := by
  unfold clamp
  omega

theorem clamp_of_natAbs_lt {p : Int} (h : (clamp p).natAbs < infinityOrdinal) : clamp p = p := by
  unfold clamp at h ⊢
  omega

/-- **The place of an integer**: that of the number nearest to it, no farther than infinity. -/
theorem place?_ofInt (i : Int) :
    (ofInt i).place? = some (clamp (signed nearest (i * unitsPerOne))) := by
  unfold ofInt ofOrdinal place? place
  rw [nearestOrdinal_one]
  simp only [Option.some.injEq]
  obtain ⟨n, rfl | rfl⟩ := Int.eq_nat_or_neg i
  · rw [← Int.natCast_mul, signed_natCast, Int.natAbs_natCast]
    generalize nearest (n * unitsPerOne) = p
    rw [decide_eq_false (by omega), clamp]
    simp only [Bool.false_eq_true, if_false]
    omega
  · rw [Int.neg_mul, ← Int.natCast_mul, signed_neg nearest_zero, Int.natAbs_neg,
      Int.natAbs_natCast, clamp]
    split
    · omega
    · next h =>
      obtain rfl : n = 0 := by
        simp only [decide_eq_true_eq] at h
        omega
      rw [Nat.zero_mul, nearest_zero]
      omega

/-! ### Integers -/

theorem unitsPerOne_pos : 0 < unitsPerOne := by
  unfold unitsPerOne
  -- with the numeral in place, the power of two would be computed
  generalize 1074 = more
  exact Nat.two_pow_pos more

/-- **Rounding keeps the order of integers.** -/
theorem place_ofInt_mono {i j p q : Int} (h : i ≤ j) (hp : (ofInt i).place? = some p)
    (hq : (ofInt j).place? = some q) : p ≤ q := by
  rw [place?_ofInt, Option.some.injEq] at hp hq
  rw [← hp, ← hq]
  apply clamp_mono
  apply signed_nearest_mono
  exact Int.mul_le_mul_of_nonneg_right h (Int.natCast_nonneg _)

/-- What keeps order leaves two numbers in their order or makes them equal. -/
theorem compare_cases_of_mono {i j p q : Int} (hle : i ≤ j → p ≤ q) (hge : j ≤ i → q ≤ p) :
    compare p q = .eq ∨ compare p q = compare i j := by
  rw [Int.compare_eq_eq]
  rcases Int.lt_trichotomy i j with hlt | rfl | hgt
  · have hpq := hle (Int.le_of_lt hlt)
    rw [Int.compare_eq_lt.mpr hlt, Int.compare_eq_lt]
    omega
  · exact .inl (Int.le_antisymm (hle (Int.le_refl i)) (hge (Int.le_refl i)))
  · have hqp := hge (Int.le_of_lt hgt)
    rw [Int.compare_eq_gt.mpr hgt, Int.compare_eq_gt]
    omega

/-- Rounded integers are in the order of the integers, unless they are equal. -/
theorem compare?_ofInt_ofInt (i j : Int) :
    (ofInt i).compare? (ofInt j) = some .eq ∨
      (ofInt i).compare? (ofInt j) = some (compare i j) := by
  have hi := place?_ofInt i
  have hj := place?_ofInt j
  rw [compare?_of_place? hi hj, Option.some.injEq, Option.some.injEq]
  exact compare_cases_of_mono (fun h => place_ofInt_mono h hi hj) (fun h => place_ofInt_mono h hj hi)

/-- The place of an integer of 64 bits, with or without sign. -/
theorem place?_ofInt_of_lt {i : Int} (h : i.natAbs < 2 ^ 65) :
    (ofInt i).place? = some (signed nearest (i * unitsPerOne)) ∧
      (signed nearest (i * unitsPerOne)).natAbs < infinityOrdinal := by
  obtain ⟨p, hp, hfinite⟩ := isFinite_iff.mp (isFinite_ofInt h)
  obtain rfl := Option.some.inj ((place?_ofInt i).symm.trans hp)
  have hclamp := clamp_of_natAbs_lt hfinite
  rw [hclamp] at hp hfinite
  exact ⟨hp, hfinite⟩

/-- The step between the magnitudes around an integer of 64 bits. -/
theorem step_le {n : Nat} (h : n < 2 ^ 64) :
    2 ^ ((n * unitsPerOne).log2 - 52) ≤ 2048 * unitsPerOne := by
  unfold unitsPerOne
  generalize 1074 = more
  have hcount : n * Nat.pow 2 more < 2 ^ (64 + more) := mul_two_pow_lt h more
  generalize n * Nat.pow 2 more = count at hcount
  have hstep : 2 ^ (count.log2 - 52) ≤ 2 ^ (11 + more) := by
    apply Nat.pow_le_pow_right (by decide)
    rcases Nat.eq_zero_or_pos count with rfl | hpos
    · simp
    · have hlog := (Nat.log2_lt hpos.ne').mpr hcount
      omega
  rwa [Nat.pow_add] at hstep

/-- **Integers of 64 bits that are rounded to one double are no more than 2048 apart.** -/
theorem natAbs_sub_le_of_agrees {i j : Int} (hi : i.natAbs < 2 ^ 64) (hj : j.natAbs < 2 ^ 64)
    (h : (ofInt i).agrees (ofInt j) = true) : (i - j).natAbs ≤ 2048 := by
  have hplaces : signed nearest (i * unitsPerOne) = signed nearest (j * unitsPerOne) :=
    (agrees_iff_of_place? (place?_ofInt_of_lt (by omega)).1
      (place?_ofInt_of_lt (by omega)).1).mp h
  have hnear (k : Int) (hk : k.natAbs < 2 ^ 64) :
      (2 * (k * unitsPerOne) - 2 * signed units (signed nearest (k * unitsPerOne))).natAbs ≤
        2048 * unitsPerOne := by
    refine Nat.le_trans (signed_units_nearest_near _) ?_
    rw [Int.natAbs_mul, Int.natAbs_natCast]
    exact step_le hk
  have hapart : ((i - j) * unitsPerOne).natAbs ≤ 2048 * unitsPerOne := by
    have hi := hnear i hi
    have hj := hnear j hj
    rw [hplaces] at hi
    rw [Int.sub_mul]
    omega
  rw [Int.natAbs_mul, Int.natAbs_natCast] at hapart
  exact Nat.le_of_mul_le_mul_right hapart unitsPerOne_pos

/-- From `2 ^ 63` up to `2 ^ 64`, doubles are the multiples of 2048. -/
theorem nearest_of_log2_eq {n : Nat} (h : n.log2 = 63) :
    nearest (n * unitsPerOne) = (11 + 1074) * binade + roundHalfEven n 2048 := by
  unfold unitsPerOne nearest
  generalize 1074 = more
  have hne : n ≠ 0 := by
    rintro rfl
    cases h
  obtain ⟨hlow, hhigh⟩ := (Nat.log2_eq_iff hne).mp h
  have hlog : (n * Nat.pow 2 more).log2 = 63 + more := by
    have hcount : n * Nat.pow 2 more ≠ 0 := Nat.mul_ne_zero hne (Nat.two_pow_pos more).ne'
    refine (Nat.log2_eq_iff hcount).mpr ⟨?_, ?_⟩
    · rw [Nat.pow_eq, Nat.pow_add]
      exact Nat.mul_le_mul_right _ hlow
    · rw [Nat.add_right_comm]
      exact mul_two_pow_lt hhigh more
  have hshift : 63 + more - 52 = 11 + more := by omega
  rw [hlog, hshift, Nat.pow_add, Nat.pow_eq, roundHalfEven_mul_right _ _ (Nat.two_pow_pos more)]

/-- Integers that are no longs are rounded to one double if they have one nearest multiple of
2048. -/
theorem agrees_ofInt_iff {m n : Nat} (hm : m.log2 = 63) (hn : n.log2 = 63) :
    (ofInt m).agrees (ofInt n) = true ↔ roundHalfEven m 2048 = roundHalfEven n 2048 := by
  have hplace (k : Nat) (hk : k.log2 = 63) :
      (ofInt k).place? = some (((11 + 1074) * binade + roundHalfEven k 2048 : Nat) : Int) := by
    have hbits : k < 2 ^ 64 := by
      have h := k.lt_log2_self
      rwa [hk] at h
    rw [(place?_ofInt_of_lt (by omega)).1, ← Int.natCast_mul, signed_natCast,
      nearest_of_log2_eq hk]
  rw [agrees_iff_of_place? (hplace m hm) (hplace n hn)]
  omega

/-- **No integer beyond the longs has a double of its own.** -/
theorem exists_agrees_ofInt {n : Nat} (h : n.log2 = 63) :
    ∃ m : Nat, m.log2 = 63 ∧ m ≠ n ∧ (ofInt n).agrees (ofInt m) = true := by
  have hne : n ≠ 0 := by
    rintro rfl
    cases h
  obtain ⟨hlow, hhigh⟩ := (Nat.log2_eq_iff hne).mp h
  have hcases := roundHalfEven_cases n 2048
  -- a neighbour of `n` on the side of its nearest multiple, or beside it if `n` is that multiple
  obtain ⟨m, hm, hmn, hlow, hhigh⟩ : ∃ m, roundHalfEven n 2048 = roundHalfEven m 2048 ∧ m ≠ n ∧
      2 ^ 63 ≤ m ∧ m < 2 ^ 64 := by
    have hnear (m : Nat) := roundHalfEven_cases m 2048
    have hfloor := hnear (n / 2048 * 2048)
    have hafter := hnear (n / 2048 * 2048 + 1)
    have hbefore := hnear (n / 2048 * 2048 + 2046)
    have hlast := hnear (n / 2048 * 2048 + 2047)
    by_cases hdown : roundHalfEven n 2048 = n / 2048
    · by_cases hmultiple : n = n / 2048 * 2048
      · exact ⟨n / 2048 * 2048 + 1, by omega, by omega, by omega, by omega⟩
      · exact ⟨n / 2048 * 2048, by omega, by omega, by omega, by omega⟩
    · by_cases hend : n = n / 2048 * 2048 + 2047
      · exact ⟨n / 2048 * 2048 + 2046, by omega, by omega, by omega, by omega⟩
      · exact ⟨n / 2048 * 2048 + 2047, by omega, by omega, by omega, by omega⟩
  have hlog : m.log2 = 63 := (Nat.log2_eq_iff (by omega)).mpr ⟨hlow, hhigh⟩
  exact ⟨m, hlog, hmn, (agrees_ofInt_iff h hlog).mpr hm⟩

/-! ### Ranks -/

/-- **The total order of doubles refines the numeric one**: it only tells more numbers apart. -/
theorem compare_rank_of_compare? {x y : Binary64} {o : Ordering} (h : x.compare? y = some o)
    (ho : o ≠ .eq) : compare x.rank y.rank = o := by
  cases x with
  | nan => cases h
  | number s a _ =>
    cases y with
    | nan => cases h
    | number t b _ =>
      obtain rfl := Option.some.inj h
      cases hplaces : compare (place s a) (place t b) with
      | eq => exact absurd hplaces ho
      | lt =>
        rw [Int.compare_eq_lt] at hplaces ⊢
        cases s <;> cases t <;> simp [place, rank] at hplaces ⊢ <;> omega
      | gt =>
        rw [Int.compare_eq_gt] at hplaces ⊢
        cases s <;> cases t <;> simp [place, rank] at hplaces ⊢ <;> omega

theorem rank_ofInt {i p : Int} (h : (ofInt i).place? = some p) :
    (ofInt i).rank = if i < 0 then p - 1 else p := by
  unfold ofInt ofOrdinal place? place at h
  unfold ofInt ofOrdinal
  obtain rfl := Option.some.inj h
  by_cases hneg : i < 0 <;> simp [hneg, rank]

theorem rank_ofInt_mono {i j : Int} (h : i ≤ j) : (ofInt i).rank ≤ (ofInt j).rank := by
  have hi := place?_ofInt i
  have hj := place?_ofInt j
  have hle := place_ofInt_mono h hi hj
  rw [rank_ofInt hi, rank_ofInt hj]
  split <;> split <;> omega

/-! ### Values -/

/-- The rational number that a finite double is. -/
def value? : Binary64 → Option ℚ
  | .nan => none
  | .number negative ordinal _ =>
    if ordinal < infinityOrdinal then
      some ((if negative then -(units ordinal : ℚ) else units ordinal) / unitsPerOne)
    else none

theorem value?_eq_some {x : Binary64} {v : ℚ} :
    x.value? = some v ↔ ∃ p, x.place? = some p ∧ p.natAbs < infinityOrdinal ∧
      v = (signed units p : ℚ) / unitsPerOne := by
  cases x with
  | nan =>
    constructor
    · intro h
      cases h
    · rintro ⟨p, hp, -⟩
      cases hp
  | number negative ordinal _ =>
    have hplace : (place negative ordinal).natAbs = ordinal := by cases negative <;> simp [place]
    have hunits : ((signed units (place negative ordinal) : Int) : ℚ) =
        if negative then -(units ordinal : ℚ) else units ordinal := by
      cases negative
      · simp [place, signed_natCast]
      · simp [place, signed_neg units_zero]
    rw [value?, ← hunits]
    constructor
    · intro h
      split at h
      · next hfinite => exact ⟨_, rfl, by rwa [hplace], (Option.some.inj h).symm⟩
      · cases h
    · rintro ⟨p, hp, hfinite, rfl⟩
      obtain rfl := Option.some.inj hp
      rw [hplace] at hfinite
      rw [if_pos hfinite]

theorem compare_div (a b : Int) :
    compare ((a : ℚ) / unitsPerOne) (b / unitsPerOne) = compare a b := by
  have hpos : (0 : ℚ) < unitsPerOne := Nat.cast_pos.mpr unitsPerOne_pos
  have hmono : StrictMono fun c : Int => (c : ℚ) / unitsPerOne :=
    fun _ _ h => div_lt_div_of_pos_right (Int.cast_lt.mpr h) hpos
  rw [← cmp_eq_compare, ← cmp_eq_compare]
  exact hmono.cmp_map_eq a b

/-- **Finite doubles are ordered as the numbers that they are.** -/
theorem compare?_eq_compare {x y : Binary64} {v w : ℚ} (hx : x.value? = some v)
    (hy : y.value? = some w) : x.compare? y = some (compare v w) := by
  obtain ⟨p, hp, -, rfl⟩ := value?_eq_some.mp hx
  obtain ⟨q, hq, -, rfl⟩ := value?_eq_some.mp hy
  have hmono : StrictMono (signed units) := fun _ _ => signed_units_strictMono
  rw [compare?_of_place? hp hq, compare_div, ← cmp_eq_compare, ← cmp_eq_compare, hmono.cmp_map_eq]

theorem compare_clamp {p q : Int} (hq : q.natAbs < infinityOrdinal) :
    compare (clamp p) q = compare p q := by
  have hcases : clamp p = p ∨ q < clamp p ∧ q < p ∨ clamp p < q ∧ p < q := by
    unfold clamp
    omega
  rcases hcases with heq | ⟨hclamp, hp⟩ | ⟨hclamp, hp⟩
  · rw [heq]
  · rw [Int.compare_eq_gt.mpr hclamp, Int.compare_eq_gt.mpr hp]
  · rw [Int.compare_eq_lt.mpr hclamp, Int.compare_eq_lt.mpr hp]

/-- A rounded count is on the side of a magnitude on which the count is, or is that magnitude. -/
theorem compare_nearest_cases (count q : Int) :
    compare (signed nearest count) q = .eq ∨
      compare (signed nearest count) q = compare count (signed units q) := by
  have hle (h : count ≤ signed units q) : signed nearest count ≤ q := by
    have hmono := signed_nearest_mono h
    rwa [signed_nearest_units] at hmono
  have hge (h : signed units q ≤ count) : q ≤ signed nearest count := by
    have hmono := signed_nearest_mono h
    rwa [signed_nearest_units] at hmono
  exact compare_cases_of_mono hle hge

/-- **An integer beside a double** is taken for equal to it, or gets the exact answer. -/
theorem compare?_ofInt_cases (i : Int) {x : Binary64} {v : ℚ} (hx : x.value? = some v) :
    (ofInt i).compare? x = some .eq ∨ (ofInt i).compare? x = some (compare (i : ℚ) v) := by
  obtain ⟨q, hq, hfinite, rfl⟩ := value?_eq_some.mp hx
  have hne : (unitsPerOne : ℚ) ≠ 0 := Nat.cast_ne_zero.mpr unitsPerOne_pos.ne'
  have hcount : (i : ℚ) = ((i * unitsPerOne : Int) : ℚ) / unitsPerOne := by
    rw [Int.cast_mul, Int.cast_natCast, mul_div_cancel_right₀ _ hne]
  rw [compare?_of_place? (place?_ofInt i) hq, compare_clamp hfinite, hcount, compare_div,
    Option.some.injEq, Option.some.injEq]
  exact compare_nearest_cases _ q

theorem exists_units_eq_mul {n : Nat} (h : n ≤ 2 ^ 53) :
    ∃ ordinal, units ordinal = n * unitsPerOne := by
  unfold unitsPerOne
  generalize 1074 = more
  rcases Nat.lt_or_eq_of_le h with hlt | rfl
  · exact exists_units_eq more hlt
  · obtain ⟨ordinal, hordinal⟩ := exists_units_eq (q := 2 ^ 52) (more + 1) (by decide)
    exact ⟨ordinal, by rw [hordinal, Nat.pow_eq, Nat.pow_succ]; omega⟩

/-- **An integer of at most 53 bits is a double.** -/
theorem value?_ofInt {i : Int} (h : i.natAbs ≤ 2 ^ 53) : (ofInt i).value? = some (i : ℚ) := by
  have hbits : i.natAbs < 2 ^ 65 := by omega
  have hne : (unitsPerOne : ℚ) ≠ 0 := Nat.cast_ne_zero.mpr unitsPerOne_pos.ne'
  obtain ⟨p, hp⟩ : ∃ p, signed units p = i * unitsPerOne := by
    obtain ⟨ordinal, hordinal⟩ := exists_units_eq_mul h
    obtain ⟨n, rfl | rfl⟩ := Int.eq_nat_or_neg i
    · exact ⟨ordinal, by rw [signed_natCast, hordinal, Int.natAbs_natCast, Int.natCast_mul]⟩
    · refine ⟨-ordinal, ?_⟩
      rw [signed_neg units_zero, hordinal, Int.natAbs_neg, Int.natAbs_natCast, Int.natCast_mul,
        Int.neg_mul]
  obtain ⟨hplace, hfinite⟩ := place?_ofInt_of_lt hbits
  rw [← hp, signed_nearest_units] at hplace hfinite
  refine value?_eq_some.mpr ⟨p, hplace, hfinite, ?_⟩
  rw [hp, Int.cast_mul, Int.cast_natCast, mul_div_cancel_right₀ _ hne]

end FilterQuery.Binary64
