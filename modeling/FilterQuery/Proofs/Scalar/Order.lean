import FilterQuery.Operation
import FilterQuery.Proofs.Numeral.Decimal
import FilterQuery.Proofs.Numeral.Exactness
import FilterQuery.Scalar

/-!
# The order of scalars

Longs and doubles are ordered as the numbers that they are (`compare?_of_value?`), with one
exception: a long meets a double as the double nearest to it, and may be taken for a double that is
another number (`Blurred`). This happens to the longs that are no doubles, which have more than 53
bits.

Turning a comparison around turns the answer around (`compare?_swap`). Equality and `≤` are carried
on from scalar to scalar, but not over a double between two longs: the double may be taken for both
of them, which are told apart (`any_accepts_trans`).
-/

namespace FilterQuery

instance : Std.TransOrd Instant :=
  inferInstanceAs
    (Std.TransCmp (compareLex (compareOn Instant.seconds) (compareOn Instant.nanoseconds)))

namespace Comparison

/-- The comparisons that an order carries on from value to value. -/
def IsTransitive (c : Comparison) : Prop :=
  c = .equal ∨ c = .atMost

theorem accepts_trans {c : Comparison} (hc : c.IsTransitive) {α : Type} [Ord α] [Std.TransOrd α]
    {x y z : α} (hxy : c.accepts (compare x y) = true) (hyz : c.accepts (compare y z) = true) :
    c.accepts (compare x z) = true := by
  have hle (o : Ordering) : atMost.accepts o = o.isLE := by cases o <;> rfl
  rcases hc with rfl | rfl
  · exact beq_iff_eq.mpr (Std.TransCmp.eq_trans (beq_iff_eq.mp hxy) (beq_iff_eq.mp hyz))
  · rw [hle] at hxy hyz ⊢
    exact Std.TransCmp.isLE_trans hxy hyz

theorem equal_accepts_compare {i j : Int} : equal.accepts (compare i j) = true ↔ i = j := by
  rw [accepts, beq_iff_eq, Int.compare_eq_eq]

theorem atMost_accepts_compare {i j : Int} : atMost.accepts (compare i j) = true ↔ i ≤ j := by
  rw [accepts, bne_iff_ne, Int.compare_ne_gt]

/-- Longs that a comparison accepts are accepted as doubles. -/
theorem accepts_place {c : Comparison} (hc : c.IsTransitive) {i j p q : Int}
    (hp : (Binary64.ofInt i).place? = some p) (hq : (Binary64.ofInt j).place? = some q)
    (h : c.accepts (compare i j) = true) : c.accepts (compare p q) = true := by
  rcases hc with rfl | rfl
  · obtain rfl : i = j := equal_accepts_compare.mp h
    exact equal_accepts_compare.mpr (Option.some.inj (hp.symm.trans hq))
  · have hle : i ≤ j := atMost_accepts_compare.mp h
    exact atMost_accepts_compare.mpr (Binary64.place_ofInt_mono hle hp hq)

end Comparison

/-! ### Doubles -/

namespace Binary64

theorem compare?_swap (x y : Binary64) : y.compare? x = (x.compare? y).map Ordering.swap := by
  cases x <;> cases y <;> first | rfl | exact congrArg some Std.OrientedCmp.eq_swap

theorem any_accepts_iff {x y : Binary64} {c : Comparison} :
    (x.compare? y).any c.accepts = true ↔
      ∃ p q, x.place? = some p ∧ y.place? = some q ∧ c.accepts (compare p q) = true := by
  cases x <;> cases y <;> simp [compare?, place?]

theorem value?_of_agrees {x y : Binary64} (h : x.agrees y = true) : x.value? = y.value? := by
  have hplace : x.place? = y.place? := by
    cases x <;> cases y <;> simp_all [agrees, compare?, place?]
  apply Option.ext
  intro v
  rw [value?_eq_some, value?_eq_some, hplace]

end Binary64

namespace Scalar

/-! ### Numbers -/

/-- The rational number that a scalar is, if it is a finite number. -/
def value? : Scalar → Option ℚ
  | .long i => some i
  | .double x => x.value?
  | _ => none

/-- A long and a double that are taken for equal and are not. -/
def Blurred : Scalar → Scalar → Prop
  | .long i, .double x | .double x, .long i =>
    (Binary64.ofInt i).agrees x = true ∧ x.value? ≠ some (i : ℚ)
  | _, _ => False

/-- **Turned around, a comparison has the answer turned around.** -/
theorem compare?_swap (x y : Scalar) : y.compare? x = (x.compare? y).map Ordering.swap := by
  cases x <;> cases y <;>
    first
    | rfl
    | exact congrArg some Std.OrientedCmp.eq_swap
    | exact Binary64.compare?_swap _ _

theorem blurred_comm {x y : Scalar} : Blurred x y ↔ Blurred y x := by
  cases x <;> cases y <;> rfl

theorem compare_intCast (i j : Int) : compare (i : ℚ) (j : ℚ) = compare i j := by
  rw [← cmp_eq_compare, ← cmp_eq_compare]
  exact Int.cast_strictMono.cmp_map_eq i j

/-- The exact answer, unless two scalars are taken for equal and are not. -/
def ExactUnlessBlurred (x y : Scalar) (u v : ℚ) : Prop :=
  (x.compare? y = some (compare u v) ↔ ¬ Blurred x y) ∧ (Blurred x y → x.compare? y = some .eq)

theorem ExactUnlessBlurred.swap {x y : Scalar} {u v : ℚ} (h : ExactUnlessBlurred x y u v) :
    ExactUnlessBlurred y x v u := by
  have hswap : compare v u = (compare u v).swap := by
    rw [← cmp_eq_compare, ← cmp_eq_compare, cmp_swap]
  rw [ExactUnlessBlurred, compare?_swap x y, hswap, blurred_comm]
  constructor
  · rw [← h.1]
    cases x.compare? y with
    | none => simp
    | some o => simp [Ordering.swap_inj]
  · intro hblurred
    rw [h.2 hblurred]
    rfl

theorem exactUnlessBlurred_long_double {i : Int} {x : Binary64} {v : ℚ} (hx : x.value? = some v) :
    ExactUnlessBlurred (.long i) (.double x) i v := by
  have hblurred : Blurred (.long i) (.double x) ↔
      (Binary64.ofInt i).compare? x = some .eq ∧ (i : ℚ) ≠ v := by
    rw [Blurred, hx, Binary64.agrees, beq_iff_eq, ne_eq, Option.some.injEq, ne_comm]
  have hcompare : (Scalar.long i).compare? (.double x) = (Binary64.ofInt i).compare? x := rfl
  rw [ExactUnlessBlurred, hblurred, hcompare]
  constructor
  · rcases Binary64.compare?_ofInt_cases i hx with heq | hexact
    · rw [heq, Option.some.injEq, eq_comm, compare_eq_iff_eq]
      simp
    · rw [hexact, Option.some.injEq, Option.some.injEq, compare_eq_iff_eq]
      simp
  · exact And.left

/-- **Numbers are compared exactly**, but for blurred ones. -/
theorem compare?_of_value? {x y : Scalar} {u v : ℚ} (hx : x.value? = some u)
    (hy : y.value? = some v) : ExactUnlessBlurred x y u v := by
  cases x with
  | long i =>
    obtain rfl := Option.some.inj hx
    cases y with
    | long j =>
      obtain rfl := Option.some.inj hy
      have hcompare : (Scalar.long i).compare? (.long j) = some (compare (i : ℚ) (j : ℚ)) := by
        rw [compare_intCast]
        rfl
      exact ⟨iff_of_true hcompare not_false, False.elim⟩
    | double y => exact exactUnlessBlurred_long_double hy
    | _ => cases hy
  | double x =>
    cases y with
    | long j =>
      obtain rfl := Option.some.inj hy
      exact (exactUnlessBlurred_long_double hx).swap
    | double y =>
      have hcompare : (Scalar.double x).compare? (.double y) = some (compare u v) :=
        Binary64.compare?_eq_compare hx hy
      exact ⟨iff_of_true hcompare not_false, False.elim⟩
    | _ => cases hy
  | _ => cases hx

/-- **The longs that may be taken for another number are those that are no doubles.** -/
theorem exists_blurred_iff {i : Int} (hi : Numeral.isLong i = true) :
    (∃ x : Binary64, x.isFinite = true ∧ Blurred (.long i) (.double x)) ↔
      (Binary64.ofInt i).value? ≠ some (i : ℚ) := by
  constructor
  · rintro ⟨x, -, hagrees, hvalue⟩
    rwa [Binary64.value?_of_agrees hagrees]
  · intro hvalue
    rw [Numeral.isLong_iff] at hi
    have hfinite : (Binary64.ofInt i).isFinite = true := Binary64.isFinite_ofInt (by omega)
    obtain ⟨p, hp, -⟩ := Binary64.isFinite_iff.mp hfinite
    exact ⟨_, hfinite, (Binary64.agrees_iff_of_place? hp hp).mpr rfl, hvalue⟩

theorem not_blurred_of_natAbs_le {i : Int} (h : i.natAbs ≤ 2 ^ 53) (x : Binary64) :
    ¬ Blurred (.long i) (.double x) := by
  rintro ⟨hagrees, hvalue⟩
  rw [← Binary64.value?_of_agrees hagrees] at hvalue
  exact hvalue (Binary64.value?_ofInt h)

/-! ### Kinds -/

/-- Scalars of one kind: of one type, or both numbers. -/
def SameKind (x y : Scalar) : Prop :=
  x.type = y.type ∨ (x.type = .long ∨ x.type = .double) ∧ (y.type = .long ∨ y.type = .double)

/-- **Scalars are in an order within a kind**, unless one of them is no number. -/
theorem compare?_eq_none_iff {x y : Scalar} :
    x.compare? y = none ↔ ¬ SameKind x y ∨ x = .double .nan ∨ y = .double .nan := by
  have hofInt (i : Int) : Binary64.ofInt i ≠ .nan := by
    simp [Binary64.ofInt, Binary64.ofOrdinal]
  cases x <;> cases y <;> simp [SameKind, type, compare?, Binary64.compare?_eq_none_iff, hofInt]

/-- Every scalar but not-a-number equals itself. -/
theorem compare?_self {x : Scalar} (h : x ≠ .double .nan) : x.compare? x = some .eq := by
  cases x with
  | double v =>
    cases v with
    | nan => exact absurd rfl h
    | number => exact congrArg some Std.ReflCmp.compare_self
  | _ => exact congrArg some Std.ReflCmp.compare_self

/-! ### Three scalars -/

/-- The place on the number line of a double, or of the double nearest to a long. Two longs are not
compared by their places. -/
def place? : Scalar → Option Int
  | .long i => (Binary64.ofInt i).place?
  | .double x => x.place?
  | _ => none

/-- What is accepted beside a number is a number, and its place is accepted too. -/
theorem exists_place {c : Comparison} (hc : c.IsTransitive) {x y : Scalar} {p : Int}
    (hx : x.place? = some p) (h : (x.compare? y).any c.accepts = true) :
    ∃ q, y.place? = some q ∧ c.accepts (compare p q) = true := by
  have hdoubles (v w : Binary64) (hv : v.place? = some p)
      (h : (v.compare? w).any c.accepts = true) :
      ∃ q, w.place? = some q ∧ c.accepts (compare p q) = true := by
    obtain ⟨p', q, hp', hq, haccepts⟩ := Binary64.any_accepts_iff.mp h
    obtain rfl := Option.some.inj (hv.symm.trans hp')
    exact ⟨q, hq, haccepts⟩
  cases x with
  | long i =>
    cases y with
    | long j =>
      exact ⟨_, Binary64.place?_ofInt j, c.accepts_place hc hx (Binary64.place?_ofInt j) h⟩
    | double w => exact hdoubles (.ofInt i) w hx h
    | _ => cases h
  | double v =>
    cases y with
    | long j => exact hdoubles v (.ofInt j) hx h
    | double w => exact hdoubles v w hx h
    | _ => cases h
  | _ => cases hx

theorem any_accepts_of_place {c : Comparison} {x y : Scalar} {p q : Int}
    (hx : x.place? = some p) (hy : y.place? = some q)
    (hlongs : ¬ (x.type = .long ∧ y.type = .long)) (h : c.accepts (compare p q) = true) :
    (x.compare? y).any c.accepts = true := by
  have hplaces {v w : Binary64} (hv : v.place? = some p) (hw : w.place? = some q) :
      (v.compare? w).any c.accepts = true :=
    Binary64.any_accepts_iff.mpr ⟨p, q, hv, hw, h⟩
  cases x with
  | long i =>
    cases y with
    | long j => exact absurd ⟨rfl, rfl⟩ hlongs
    | double w => exact hplaces (v := .ofInt i) hx hy
    | _ => cases hy
  | double v =>
    cases y with
    | long j => exact hplaces (w := .ofInt j) hx hy
    | double w => exact hplaces hx hy
    | _ => cases hy
  | _ => cases hx

/-- A number between two others, which are not both longs. -/
theorem any_accepts_trans_of_place {c : Comparison} (hc : c.IsTransitive) {x y z : Scalar} {p : Int}
    (hx : x.place? = some p) (hlongs : ¬ (x.type = .long ∧ z.type = .long))
    (hxy : (x.compare? y).any c.accepts = true) (hyz : (y.compare? z).any c.accepts = true) :
    (x.compare? z).any c.accepts = true := by
  obtain ⟨q, hq, hpq⟩ := exists_place hc hx hxy
  obtain ⟨r, hr, hqr⟩ := exists_place hc hq hyz
  exact any_accepts_of_place hx hr hlongs (c.accepts_trans hc hpq hqr)

/-- **A comparison is carried on**, but not over a double between two longs. -/
theorem any_accepts_trans {c : Comparison} (hc : c.IsTransitive) {x y z : Scalar}
    (hxy : (x.compare? y).any c.accepts = true) (hyz : (y.compare? z).any c.accepts = true)
    (hbetween : ¬ (x.type = .long ∧ y.type = .double ∧ z.type = .long)) :
    (x.compare? z).any c.accepts = true := by
  cases x with
  | long i =>
    by_cases hz : z.type = .long
    · cases y with
      | long j =>
        cases z with
        | long k => exact c.accepts_trans hc hxy hyz
        | _ => cases hz
      | double w => exact absurd ⟨rfl, rfl, hz⟩ hbetween
      | _ => cases hxy
    · exact any_accepts_trans_of_place hc (Binary64.place?_ofInt i) (fun h => hz h.2) hxy hyz
  | double v =>
    cases v with
    | nan => cases y <;> cases hxy
    | number => exact any_accepts_trans_of_place hc rfl (fun h => nomatch h.1) hxy hyz
  -- other scalars are compared with those of their own type
  | _ =>
    cases y <;> try cases hxy
    cases z <;> try cases hyz
    exact c.accepts_trans hc hxy hyz

/-- Over a double between two longs, a comparison is carried on if it accepts the longs. If it does
not, one of the longs is taken for the double and is not. -/
theorem blurred_of_not_accepts {c : Comparison} (hc : c.IsTransitive) {i j : Int} {x : Binary64}
    (hix : ((long i).compare? (.double x)).any c.accepts = true)
    (hxj : ((Scalar.double x).compare? (.long j)).any c.accepts = true)
    (hij : c.accepts (compare i j) = false) :
    Blurred (.long i) (.double x) ∨ Blurred (.double x) (.long j) := by
  obtain ⟨p, q, hp, hq, hpq⟩ := Binary64.any_accepts_iff.mp hix
  obtain ⟨q', r, hq', hr, hqr⟩ := Binary64.any_accepts_iff.mp hxj
  obtain rfl := Option.some.inj (hq.symm.trans hq')
  have hsame : p = q ∧ q = r ∧ i ≠ j := by
    rcases hc with rfl | rfl
    · rw [Comparison.equal_accepts_compare] at hpq hqr
      exact ⟨hpq, hqr, fun h => by simp [Comparison.equal_accepts_compare.mpr h] at hij⟩
    · rw [Comparison.atMost_accepts_compare] at hpq hqr
      have hlt : j < i := by
        rw [Bool.eq_false_iff, ne_eq, Comparison.atMost_accepts_compare] at hij
        omega
      have hrp := Binary64.place_ofInt_mono (Int.le_of_lt hlt) hr hp
      omega
  obtain ⟨rfl, rfl, hne⟩ := hsame
  have hagrees {k : Int} (hk : (Binary64.ofInt k).place? = some p) :
      (Binary64.ofInt k).agrees x = true :=
    (Binary64.agrees_iff_of_place? hk hq).mpr rfl
  by_cases hvalue : x.value? = some (i : ℚ)
  · right
    refine ⟨hagrees hr, ?_⟩
    rw [hvalue]
    simpa using hne
  · exact .inl ⟨hagrees hp, hvalue⟩

/-- **Scalars are compared exactly but for blurred longs.** Two numbers are in their exact order if
and only if they are not a long and a double that is taken for it and is another number. This may
happen to the longs that are no doubles. Comparisons turn around, and equality and `≤` are carried
on from scalar to scalar, except over a double between two longs that they do not accept; then one
of these is blurred. -/
theorem scalars_compare_exactly_but_for_blurred_longs (x y z : Scalar) :
    (∀ u v, x.value? = some u → y.value? = some v →
      (x.compare? y = some (compare u v) ↔ ¬ Blurred x y) ∧
        (Blurred x y → x.compare? y = some .eq)) ∧
    (∀ i, x = .long i → Numeral.isLong i = true →
      ((∃ w : Binary64, w.isFinite = true ∧ Blurred x (.double w)) ↔
        (Binary64.ofInt i).value? ≠ some (i : ℚ)) ∧
      (i.natAbs ≤ 2 ^ 53 → ∀ w, ¬ Blurred x (.double w))) ∧
    y.compare? x = (x.compare? y).map Ordering.swap ∧
    ∀ c : Comparison, c = .equal ∨ c = .atMost →
      (x.compare? y).any c.accepts = true → (y.compare? z).any c.accepts = true →
      ((x.compare? z).any c.accepts = false ↔
        ∃ i w j, x = .long i ∧ y = .double w ∧ z = .long j ∧ c.accepts (compare i j) = false) ∧
      ((x.compare? z).any c.accepts = false → Blurred x y ∨ Blurred y z) := by
  refine ⟨fun u v => compare?_of_value?, ?longs, compare?_swap x y, ?triple⟩
  case longs =>
    rintro i rfl hi
    exact ⟨exists_blurred_iff hi, not_blurred_of_natAbs_le⟩
  case triple =>
    intro c hc hxy hyz
    have hbetween : (x.compare? z).any c.accepts = false ↔
        ∃ i w j, x = .long i ∧ y = .double w ∧ z = .long j ∧ c.accepts (compare i j) = false := by
      constructor
      · intro hxz
        have htypes : x.type = .long ∧ y.type = .double ∧ z.type = .long := by
          by_contra hbetween
          rw [any_accepts_trans hc hxy hyz hbetween] at hxz
          cases hxz
        obtain ⟨hx, hy, hz⟩ := htypes
        cases x <;> cases hx
        cases y <;> cases hy
        cases z <;> cases hz
        exact ⟨_, _, _, rfl, rfl, rfl, hxz⟩
      · rintro ⟨i, w, j, rfl, rfl, rfl, hij⟩
        exact hij
    refine ⟨hbetween, fun hxz => ?_⟩
    obtain ⟨i, w, j, rfl, rfl, rfl, hij⟩ := hbetween.mp hxz
    exact blurred_of_not_accepts hc hxy hyz hij

/-- One more than `2 ^ 53` is taken for the double `2 ^ 53`, and so is `2 ^ 53` itself. -/
theorem scalars_compare_exactly_but_for_blurred_longs_past_53_bits :
    let above : Scalar := .long 9007199254740993
    let double : Scalar := .double (.ofInt 9007199254740992)
    let long : Scalar := .long 9007199254740992
    Blurred above double ∧ above.compare? double = some .eq ∧
      double.compare? long = some .eq ∧ ¬ Blurred long double ∧
      above.compare? long = some .gt ∧ (Blurred above double ∨ Blurred double long) ∧
      ∃ w : Binary64, w.isFinite = true ∧ Blurred above (.double w) := by
  intro above double long
  obtain ⟨hnumbers, hlong, -, htriple⟩ :=
    scalars_compare_exactly_but_for_blurred_longs above double long
  obtain ⟨hnumbers', hlong', hswap, -⟩ :=
    scalars_compare_exactly_but_for_blurred_longs long double long
  have hvalue : (Binary64.ofInt 9007199254740992).value? = some ((9007199254740992 : Int) : ℚ) :=
    Binary64.value?_ofInt (by decide)
  have hblurred : Blurred above double := by
    refine ⟨by decide +kernel, fun h => ?_⟩
    have heq : (9007199254740992 : Int) = 9007199254740993 :=
      Int.cast_injective (Option.some.inj (hvalue.symm.trans h))
    omega
  have hequal : above.compare? double = some .eq := (hnumbers _ _ rfl hvalue).2 hblurred
  have hexact : ¬ Blurred long double := (hlong' _ rfl (by decide)).2 (by decide) _
  have hself : double.compare? long = some .eq := by
    rw [hswap, (hnumbers' _ _ rfl hvalue).1.mpr hexact, compare_intCast]
    rfl
  have hapart : (above.compare? long).any Comparison.equal.accepts = false := by decide
  refine ⟨hblurred, hequal, hself, hexact, by decide, ?_, ?_⟩
  · exact (htriple .equal (.inl rfl) (by rw [hequal]; rfl) (by rw [hself]; rfl)).2 hapart
  · refine (hlong _ rfl (by decide)).1.mpr fun h => ?_
    rw [Binary64.value?_of_agrees hblurred.1] at h
    exact hblurred.2 h

end Scalar

end FilterQuery
