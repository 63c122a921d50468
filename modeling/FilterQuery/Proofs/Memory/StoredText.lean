import FilterQuery.Memory.Predicate
import FilterQuery.Proofs.Numeral.Exactness
import FilterQuery.Proofs.Request.Typing

/-!
# Texts in rows

A text in a row is read as the type of the scalar that it is compared with, by the rules for the
texts of a request, with one difference: as a double it may also be infinite or no number. So a
request text stands for what the stored text is read as, if that is finite
(`cast?_eq_filter_fieldAs`).

The scalars of a request are always finite. Beside them a stored text that is no number is in no
order, as a text that cannot be cast would be. But one that is infinite is beyond all of them, and
fulfils comparisons where no text of a request could stand (`compareField_ne_cast_iff`).
-/

namespace FilterQuery

/-! ### Infinite doubles -/

namespace Binary64

theorem isFinite_eq_false_iff {x : Binary64} :
    x.isFinite = false ↔ x = .nan ∨ ∃ negative, x = infinity negative := by
  cases x with
  | nan => simp [isFinite]
  | number negative ordinal within =>
    have hfinite : isFinite (.number negative ordinal within) = false ↔
        ordinal = infinityOrdinal := by
      rw [isFinite, decide_eq_false_iff_not]
      omega
    rw [hfinite]
    simp [infinity, ofOrdinal]

/-- Infinity is beyond all finite numbers. -/
theorem compare?_infinity (negative : Bool) {x : Binary64} (hx : x.isFinite = true) :
    (infinity negative).compare? x = some (if negative then .lt else .gt) := by
  obtain ⟨p, hp, hfinite⟩ := isFinite_iff.mp hx
  have hplace : (infinity negative).place? = some (place negative infinityOrdinal) := by
    simp [infinity, ofOrdinal, place?]
  rw [compare?_of_place? hplace hp]
  cases negative
  · exact congrArg some (Int.compare_eq_gt.mpr (by simp [place]; omega))
  · exact congrArg some (Int.compare_eq_lt.mpr (by simp [place]; omega))

end Binary64

namespace Memory

/-! ### Readings -/

theorem fieldAs_double {s : String} {x : Binary64} (h : Binary64.read? s = some x) :
    fieldAs (.string s) .double = some (.double x) := by
  show (Binary64.read? s).map Scalar.double = _
  rw [h]
  rfl

/-- **A request text stands for what a stored text is read as**, if that is finite. -/
theorem cast?_eq_filter_fieldAs (s : String) (t : ScalarType) :
    t.cast? (.text s) = (fieldAs (.string s) t).filter Scalar.isFinite := by
  rw [ScalarType.cast?_text]
  show t.read? s = (textAs s t).filter Scalar.isFinite
  have hkept {α : Type} (read : Option α) (make : α → Scalar) (h : ∀ y, (make y).isFinite = true) :
      read.map make = (read.map make).filter Scalar.isFinite := by
    cases read <;> simp [Option.filter_some, h]
  cases t with
  | long => exact hkept _ _ fun _ => rfl
  | boolean => exact hkept _ _ fun _ => rfl
  | instant => exact hkept _ _ fun _ => rfl
  | string => rfl
  | double =>
    rw [ScalarType.read?, Binary64.readFinite?, textAs]
    cases Binary64.read? s with
    | none => rfl
    | some x => cases h : x.isFinite <;> simp [Option.filter_some, Scalar.isFinite, h]

/-- Only as a double may a text be read as something that is not finite. -/
theorem fieldAs_not_finite {s : String} {t : ScalarType} {x : Scalar}
    (h : fieldAs (.string s) t = some x) (hx : x.isFinite = false) :
    t = .double ∧ ∃ y, x = .double y ∧ Binary64.read? s = some y ∧ y.isFinite = false := by
  change textAs s t = some x at h
  cases t <;> simp only [textAs, Option.map_eq_some_iff, Option.some.injEq] at h
  case double =>
    obtain ⟨y, hy, rfl⟩ := h
    exact ⟨rfl, y, rfl, hy, hx⟩
  case string =>
    subst h
    cases hx
  all_goals
    obtain ⟨y, -, rfl⟩ := h
    cases hx

theorem fieldAs_ne_cast?_iff {s : String} {t : ScalarType} :
    fieldAs (.string s) t ≠ t.cast? (.text s) ↔
      t = .double ∧ ∃ x, Binary64.read? s = some x ∧ x.isFinite = false := by
  rw [cast?_eq_filter_fieldAs]
  constructor
  · intro hne
    cases h : fieldAs (.string s) t with
    | none => simp [h] at hne
    | some x =>
      have hx : x.isFinite = false := by
        rw [h, Option.filter_some] at hne
        by_contra hfinite
        simp [Bool.eq_true_of_not_eq_false hfinite] at hne
      obtain ⟨ht, y, -, hy, hfinite⟩ := fieldAs_not_finite h hx
      exact ⟨ht, y, hy, hfinite⟩
  · rintro ⟨rfl, x, hx, hfinite⟩
    simp [fieldAs_double hx, Option.filter_some, Scalar.isFinite, hfinite]

/-! ### Comparisons -/

theorem compareField_string (s : String) (target : Scalar) :
    compareField (.string s) target =
      (fieldAs (.string s) target.type).bind (·.compare? target) := rfl

/-- A stored text that is infinite is beyond all doubles of a request. -/
theorem compareField_of_infinity {s : String} {negative : Bool} {target : Scalar}
    (ht : target.type = .double) (hfinite : target.isFinite = true)
    (hs : Binary64.read? s = some (.infinity negative)) :
    compareField (.string s) target = some (if negative then .lt else .gt) := by
  rw [compareField_string, ht, fieldAs_double hs, Option.bind_some]
  cases target with
  | double x => exact Binary64.compare?_infinity negative hfinite
  | _ => cases ht

theorem compareField_ne_cast_iff {s : String} {target : Scalar} (hfinite : target.isFinite = true) :
    compareField (.string s) target ≠ (target.type.cast? (.text s)).bind (·.compare? target) ↔
      target.type = .double ∧ ∃ negative, Binary64.read? s = some (.infinity negative) := by
  constructor
  · intro hne
    have hread : fieldAs (.string s) target.type ≠ target.type.cast? (.text s) :=
      fun h => hne (by rw [compareField_string, h])
    obtain ⟨ht, x, hx, hinfinite⟩ := fieldAs_ne_cast?_iff.mp hread
    rcases Binary64.isFinite_eq_false_iff.mp hinfinite with rfl | ⟨negative, rfl⟩
    · -- what is no number is in no order, and as a request text it is no double
      refine absurd ?_ hne
      rw [compareField_string, cast?_eq_filter_fieldAs, ht, fieldAs_double hx]
      cases target <;> rfl
    · exact ⟨ht, negative, hx⟩
  · rintro ⟨ht, negative, hs⟩
    have hinfinite : (Scalar.double (.infinity negative)).isFinite = false :=
      Binary64.isFinite_eq_false_iff.mpr (.inr ⟨negative, rfl⟩)
    rw [compareField_of_infinity ht hfinite hs, cast?_eq_filter_fieldAs, ht, fieldAs_double hs,
      Option.filter_some, hinfinite]
    simp

/-- **Stored texts are read as request texts but for infinities.** Beside a scalar of a request,
which is always finite, a text in a row is read as the same text of a request would be cast, unless
it is a double that is not finite: then the cast fails and the reading does not. An infinite one
fulfils every comparison that its side of the number line fulfils. -/
theorem stored_texts_read_as_request_texts_but_for_infinities (s : String) {v : ParamValue}
    {target : Scalar} (h : v.Yields target) :
    (fieldAs (.string s) target.type = target.type.cast? (.text s) ↔
      ¬ (target.type = .double ∧ ∃ x, Binary64.read? s = some x ∧ x.isFinite = false)) ∧
    target.type.cast? (.text s) = (fieldAs (.string s) target.type).filter Scalar.isFinite ∧
    target.isFinite = true ∧
    (compareField (.string s) target = (target.type.cast? (.text s)).bind (·.compare? target) ↔
      ¬ (target.type = .double ∧ ∃ negative, Binary64.read? s = some (.infinity negative))) ∧
    ∀ negative, target.type = .double → Binary64.read? s = some (.infinity negative) →
      ∀ rows row field c, field? row field = some (.string s) →
        (Predicate.condition (.compare field c target)).holds rows row =
          c.accepts (if negative then .lt else .gt) := by
  have hfinite := h.isFinite
  refine ⟨?_, cast?_eq_filter_fieldAs s target.type, hfinite, ?_, ?_⟩
  · rw [← fieldAs_ne_cast?_iff, not_not]
  · rw [← compareField_ne_cast_iff hfinite, not_not]
  · intro negative ht hs rows row field c hfield
    rw [Predicate.holds, fulfils, hfield, Option.bind_some,
      compareField_of_infinity ht hfinite hs]
    rfl

/-- A word for infinity is less than one, though no request could name it. -/
theorem stored_texts_read_as_request_texts_but_for_infinity_in_words :
    let row : Json := .object [("n", .string "-Infinity")]
    let one : Scalar := .double (.ofInt 1)
    ParamValue.Yields (.float (.ofInt 1)) one ∧ one.isFinite = true ∧
      fieldAs (.string "-Infinity") one.type ≠ one.type.cast? (.text "-Infinity") ∧
      compareField (.string "-Infinity") one ≠
        (one.type.cast? (.text "-Infinity")).bind (·.compare? one) ∧
      (Predicate.condition (.compare "n" .less one)).holds [] row = true ∧
      fieldAs (.string "one") one.type = one.type.cast? (.text "one") := by
  intro row one
  have hone : ParamValue.Yields (.float (.ofInt 1)) one := .inl (by decide +kernel)
  have hinfinity : Binary64.read? "-Infinity" = some (.infinity true) := by decide
  obtain ⟨hread, -, hfinite, hcompare, hholds⟩ :=
    stored_texts_read_as_request_texts_but_for_infinities "-Infinity" hone
  obtain ⟨hsame, -⟩ := stored_texts_read_as_request_texts_but_for_infinities "one" hone
  refine ⟨hone, hfinite, ?_, ?_, ?_, hsame.mpr ?_⟩
  · exact fun heq => hread.mp heq ⟨rfl, _, hinfinity, rfl⟩
  · exact fun heq => hcompare.mp heq ⟨rfl, true, hinfinity⟩
  · rw [hholds true rfl hinfinity [] row "n" .less rfl]
    rfl
  · rintro ⟨-, x, hx, -⟩
    have hnone : Binary64.read? "one" = none := by decide
    rw [hnone] at hx
    cases hx

end Memory

end FilterQuery
