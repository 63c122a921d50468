import FilterQuery.Numeral.Text
import FilterQuery.Proofs.Numeral.Nearest
import Mathlib.Data.List.TakeWhile

/-!
# Integers read from their text

The text of an integer is a sign, if it is negative, and its digits. Read as an integer it is that
integer again (`integer?_toString`), and read as a double it is the double nearest to it
(`read?_toString`): a decimal without fraction and exponent is rounded as the integer is.
-/

namespace FilterQuery

theorem toList_toString_natCast (n : Nat) : (toString (n : Int)).toList = Nat.toDigits 10 n := by
  rw [Int.toString_eq_repr, Int.repr_eq_if, if_pos (Int.natCast_nonneg n), Int.toNat_natCast,
    Nat.toList_repr]

theorem toList_toString_neg {n : Nat} (hn : 0 < n) :
    (toString (-n : Int)).toList = '-' :: Nat.toDigits 10 n := by
  rw [Int.toString_eq_repr, Int.repr_eq_if, if_neg (by omega), Int.neg_neg, Int.toNat_natCast,
    String.toList_append, Nat.toList_repr]
  rfl

/-- The text of an integer begins with a sign if the integer is negative. -/
theorem toList_toString_cases (i : Int) :
    (∃ n : Nat, i = n ∧ (toString i).toList = Nat.toDigits 10 n) ∨
      ∃ n : Nat, 0 < n ∧ i = -n ∧ (toString i).toList = '-' :: Nat.toDigits 10 n := by
  obtain ⟨n, rfl | rfl⟩ := Int.eq_nat_or_neg i
  · exact .inl ⟨n, rfl, toList_toString_natCast n⟩
  · rcases Nat.eq_zero_or_pos n with rfl | hn
    · exact .inl ⟨0, rfl, toList_toString_natCast 0⟩
    · exact .inr ⟨n, hn, rfl, toList_toString_neg hn⟩

theorem isDigit_toDigits (n : Nat) : ∀ c ∈ Nat.toDigits 10 n, c.isDigit = true :=
  fun _ hc => Nat.isDigit_of_mem_toDigits (by decide) (by decide) hc

theorem toList_toString_ne_nil (i : Int) : (toString i).toList ≠ [] := by
  rcases toList_toString_cases i with ⟨n, -, htext⟩ | ⟨n, -, -, htext⟩ <;> rw [htext]
  · exact Nat.toDigits_ne_nil
  · exact List.cons_ne_nil _ _

/-- What is in the text of an integer. -/
theorem mem_toString {i : Int} {c : Char} (hc : c ∈ (toString i).toList) :
    c = '-' ∨ c.isDigit = true := by
  rcases toList_toString_cases i with ⟨n, -, htext⟩ | ⟨n, -, -, htext⟩ <;> rw [htext] at hc
  · exact .inr (isDigit_toDigits n c hc)
  · exact (List.mem_cons.mp hc).imp_right (isDigit_toDigits n c)

/-! ### As integers -/

namespace Numeral

theorem isLong_iff {i : Int} :
    isLong i = true ↔ -0x8000000000000000 ≤ i ∧ i < 0x8000000000000000 := by
  rw [isLong, Bool.and_eq_true, decide_eq_true_eq, decide_eq_true_eq]

theorem digits?_toDigits (n : Nat) : digits? (Nat.toDigits 10 n) = some n := by
  rw [digits?, if_pos ⟨Nat.toDigits_ne_nil, List.all_eq_true.mpr (isDigit_toDigits n)⟩,
    Nat.ofDigitChars_ten_toDigits]

theorem integer?_of_isDigit {cs : List Char} (h : ∀ c ∈ cs, c.isDigit = true) :
    integer? cs = (digits? cs).map fun n => (n : Int) := by
  unfold integer?
  split
  · exact absurd (h '-' (by simp)) (by decide)
  · exact absurd (h '+' (by simp)) (by decide)
  · rfl

theorem integer?_toString (i : Int) : integer? (toString i).toList = some i := by
  rcases toList_toString_cases i with ⟨n, rfl, htext⟩ | ⟨n, -, rfl, htext⟩ <;> rw [htext]
  · rw [integer?_of_isDigit (isDigit_toDigits n), digits?_toDigits]
    rfl
  · rw [integer?, digits?_toDigits]
    rfl

theorem long?_toString (i : Int) : long? (toString i) = if isLong i then some i else none := by
  rw [long?, integer?_toString, Option.filter_some]

/-- The text of an integer is a count if the integer is one; a minus sign is never read. -/
theorem count?_toString (i : Int) :
    count? (toString i).toList = if 0 ≤ i ∧ i ≤ countMax then some i.toNat else none := by
  rcases toList_toString_cases i with ⟨n, rfl, htext⟩ | ⟨n, hn, rfl, htext⟩ <;> rw [htext]
  · have hread : count? (Nat.toDigits 10 n) =
        (digits? (Nat.toDigits 10 n)).filter (· ≤ countMax) := by
      unfold count?
      split
      · next heq => exact absurd (isDigit_toDigits n '+' (by simp [heq])) (by decide)
      · rfl
    rw [hread, digits?_toDigits, Option.filter_some]
    simp
  · have hread : count? ('-' :: Nat.toDigits 10 n) = none := rfl
    rw [hread, if_neg (by omega)]

end Numeral

/-! ### As doubles -/

namespace Binary64

theorem toLower_of_isDigit {c : Char} (hc : c.isDigit = true) : c.toLower = c := by
  unfold Char.toLower
  rw [dif_neg]
  rintro ⟨hupper, -⟩
  have hdigit : c.val ≤ '9'.val := by
    simp only [Char.isDigit, Bool.and_eq_true, decide_eq_true_eq] at hc
    exact hc.2
  exact absurd (UInt32.le_trans hupper hdigit) (by decide)

/-- Digits are none of the words for a number. -/
theorem unsigned?_of_isDigit {cs : List Char} (h : ∀ c ∈ cs, c.isDigit = true) (negative : Bool) :
    unsigned? negative cs = magnitude? negative cs := by
  have hlower : cs.map Char.toLower = cs := by
    rw [List.map_congr_left fun c hc => toLower_of_isDigit (h c hc), List.map_id']
  have hword (c : Char) (word : String) (hc : c ∈ word.toList) (hdigit : c.isDigit = false) :
      String.ofList cs ≠ word := by
    rintro rfl
    rw [String.toList_ofList] at hc
    rw [h c hc] at hdigit
    cases hdigit
  unfold unsigned?
  rw [hlower]
  split
  · next hinf => exact absurd hinf (hword 'i' _ (by decide) (by decide))
  · next hinfinity => exact absurd hinfinity (hword 'i' _ (by decide) (by decide))
  · next hnan => exact absurd hnan (hword 'n' _ (by decide) (by decide))
  · rfl

theorem ofDecimal_zero (negative : Bool) {n : Nat} (hn : (Nat.toDigits 10 n).length ≤ 310) :
    ofDecimal negative n 0 = ofOrdinal negative (nearestOrdinal n 1) := by
  unfold ofDecimal
  simp only [Int.add_zero]
  rcases Nat.eq_zero_or_pos n with rfl | hpos
  · rw [if_pos (.inl rfl), nearestOrdinal_one, Nat.zero_mul, nearest_zero]
  · rw [if_neg (by omega), if_neg (by omega), if_pos (Int.le_refl 0)]
    simp

theorem magnitude?_toDigits (negative : Bool) {n : Nat}
    (hn : (Nat.toDigits 10 n).length ≤ 310) :
    magnitude? negative (Nat.toDigits 10 n) =
      some (ofOrdinal negative (nearestOrdinal n 1)) := by
  have htake : (Nat.toDigits 10 n).takeWhile Char.isDigit = Nat.toDigits 10 n :=
    List.takeWhile_eq_self_iff.mpr (isDigit_toDigits n)
  have hdrop : (Nat.toDigits 10 n).dropWhile Char.isDigit = [] :=
    List.dropWhile_eq_nil_iff.mpr (isDigit_toDigits n)
  simp only [magnitude?, htake, hdrop, List.append_nil, if_neg Nat.toDigits_ne_nil,
    Nat.ofDigitChars_ten_toDigits, exponent?, Option.map_some, List.length_nil, Int.natCast_zero,
    Int.sub_zero, ofDecimal_zero negative hn]

/-- **The text of an integer is read as the double nearest to the integer.** -/
theorem read?_toString {i : Int} (h : (Nat.toDigits 10 i.natAbs).length ≤ 310) :
    read? (toString i) = some (ofInt i) := by
  rcases toList_toString_cases i with ⟨n, rfl, htext⟩ | ⟨n, hpos, rfl, htext⟩
  · have hdigits := isDigit_toDigits n
    unfold read? ofInt
    rw [htext]
    split
    · next heq => exact absurd (hdigits '-' (by simp [heq])) (by decide)
    · next heq => exact absurd (hdigits '+' (by simp [heq])) (by decide)
    · rw [unsigned?_of_isDigit hdigits, magnitude?_toDigits false (by simpa using h),
        decide_eq_false (by omega), Int.natAbs_natCast]
  · unfold read? ofInt
    simp only [htext]
    rw [unsigned?_of_isDigit (isDigit_toDigits n), magnitude?_toDigits true (by simpa using h),
      decide_eq_true (by omega), Int.natAbs_neg, Int.natAbs_natCast]

end Binary64

end FilterQuery
