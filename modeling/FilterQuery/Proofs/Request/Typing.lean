import FilterQuery.Backend
import FilterQuery.Proofs.Engine.Outcome
import FilterQuery.Proofs.Numeral.Decimal
import FilterQuery.Proofs.Numeral.Rounding

/-!
# What the values of a request stand for

A value takes a type and is cast to it, and a text is then what it reads as
(`ScalarType.cast?_text`). Whatever the value, the scalar that comes out is of that type
(`type_of_toScalar`), and it is no infinite number and is a number (`isFinite_of_toScalar`,
`isFinite_of_mem_toScalars`).

The text of an integer stands for that integer: as a long, or as the nearest double where it is none
(`toScalar_toString`).

With the scalars of its value a parameter asks something of a row, and its operation says what
(`Condition.ofParam_eq_ok`).
-/

namespace FilterQuery

/-- The scalar is no double, or a finite one. -/
def Scalar.isFinite : Scalar → Bool
  | .double x => x.isFinite
  | _ => true

theorem Scalar.ne_nan_of_isFinite {x : Scalar} (h : x.isFinite = true) : x ≠ .double .nan := by
  rintro rfl
  cases h

/-- The scalar that an integer of JSON is. -/
def Scalar.ofInteger (i : Int) : Scalar :=
  if Numeral.isLong i then .long i else .double (.ofInt i)

/-! ### Texts -/

theorem ScalarType.cast?_text (t : ScalarType) (s : String) : t.cast? (.text s) = t.read? s := by
  cases t <;> rfl

theorem ScalarType.isFinite_of_read? {t : ScalarType} {s : String} {x : Scalar}
    (h : t.read? s = some x) : x.isFinite = true := by
  cases t <;> simp only [read?, Option.map_eq_some_iff, Option.some.injEq] at h
  case double =>
    obtain ⟨y, hy, rfl⟩ := h
    exact (Option.filter_eq_some_iff.mp hy).2
  case string =>
    subst h
    rfl
  all_goals
    obtain ⟨y, -, rfl⟩ := h
    rfl

namespace ParamValue

theorem toScalar_text (s : String) :
    toScalar (.text s) = (ScalarType.infer (.text s)).bind (·.cast (.text s)) := rfl

theorem toScalar_of_infer? {s : String} {t : ScalarType} {x : Scalar}
    (ht : ScalarType.infer? (.text s) = some t) (hx : t.read? s = some x) :
    toScalar (.text s) = .ok x := by
  rw [toScalar_text, ScalarType.infer, ht]
  show t.cast (.text s) = _
  rw [ScalarType.cast, ScalarType.cast?_text, hx]

theorem toScalar_of_long? {s : String} {i : Int} (h : Numeral.long? s = some i) :
    toScalar (.text s) = .ok (.long i) := by
  apply toScalar_of_infer? (t := .long)
  · simp [ScalarType.infer?, ScalarType.all, ScalarType.accepts, ScalarType.acceptsText,
      ScalarType.read?, h]
  · simp [ScalarType.read?, h]

theorem toScalar_of_readFinite? {s : String} {x : Binary64} (hlong : Numeral.long? s = none)
    (h : Binary64.readFinite? s = some x) : toScalar (.text s) = .ok (.double x) := by
  apply toScalar_of_infer? (t := .double)
  · simp [ScalarType.infer?, ScalarType.all, ScalarType.accepts, ScalarType.acceptsText,
      ScalarType.read?, hlong, h]
  · simp [ScalarType.read?, h]

/-- A text without commas is a list of itself, unless it is blank. -/
theorem toScalars_of_not_mem {s : String} (hblank : Text.isAllBlank s = false)
    (hcomma : ',' ∉ s.toList) :
    toScalars (some (.text s)) = (toScalar (.text s)).map ([·]) := by
  have helements : listElements s = [.text s] := by
    rw [listElements, List.splitOn_eq_singleton hcomma, List.map_singleton, String.ofList_toList]
  rw [toScalars, hblank, helements, toScalar_text]
  show (ScalarType.infer (.text s)).bind (fun t => [ParamValue.text s].mapM t.cast) = _
  cases ScalarType.infer (.text s) with
  | error e => rfl
  | ok t =>
    show [ParamValue.text s].mapM t.cast = (t.cast (.text s)).map ([·])
    cases h : t.cast (.text s) <;> simp [h] <;> rfl

/-! ### Texts of integers -/

end ParamValue

theorem Json.keepsInteger_iff {i : Int} :
    keepsInteger i = true ↔ -0x8000000000000000 ≤ i ∧ i ≤ 0xFFFFFFFFFFFFFFFF := by
  rw [keepsInteger, Numeral.countMax, Bool.and_eq_true, decide_eq_true_eq, decide_eq_true_eq]
  omega

namespace ParamValue

/-- **The text of an integer stands for what the integer is in JSON.** -/
theorem toScalar_toString {i : Int} (hi : Json.keepsInteger i = true) :
    toScalar (.text (toString i)) = .ok (.ofInteger i) := by
  have hlong := Numeral.long?_toString i
  rw [Scalar.ofInteger]
  split at hlong
  · next h => rw [if_pos h, toScalar_of_long? hlong]
  · next h =>
    rw [Json.keepsInteger_iff] at hi
    have hdigits : (Nat.toDigits 10 i.natAbs).length ≤ 20 :=
      (Nat.length_toDigits_le_iff (by decide) (by decide)).mpr (by omega)
    have hfinite : (Binary64.ofInt i).isFinite = true := Binary64.isFinite_ofInt (by omega)
    have hdouble : Binary64.readFinite? (toString i) = some (.ofInt i) := by
      rw [Binary64.readFinite?, Binary64.read?_toString (by omega), Option.filter_some,
        if_pos hfinite]
    rw [if_neg h, toScalar_of_readFinite? hlong hdouble]

theorem isBlank_of_mem_toString {i : Int} {c : Char} (hc : c ∈ (toString i).toList) :
    Text.isBlank c = false := by
  rcases mem_toString hc with rfl | hdigit
  · decide
  · have hrange : 48 ≤ c.toNat ∧ c.toNat ≤ 57 := by
      simpa [Char.isDigit, UInt32.le_iff_toNat_le] using hdigit
    simp only [Text.isBlank, Bool.or_eq_false_iff, Bool.and_eq_false_iff, decide_eq_false_iff_not,
      beq_eq_false_iff_ne]
    omega

theorem toScalars_toString {i : Int} (hi : Json.keepsInteger i = true) :
    toScalars (some (.text (toString i))) = .ok [.ofInteger i] := by
  have hblank : Text.isAllBlank (toString i) = false := by
    rw [Text.isAllBlank, List.all_eq_false]
    obtain ⟨c, hc⟩ := List.exists_mem_of_ne_nil _ (toList_toString_ne_nil i)
    exact ⟨c, hc, by simp [isBlank_of_mem_toString hc]⟩
  have hcomma : ',' ∉ (toString i).toList := by
    intro hmem
    rcases mem_toString hmem with h | h <;> revert h <;> decide
  rw [toScalars_of_not_mem hblank hcomma, toScalar_toString hi]
  rfl

end ParamValue

/-! ### Finite numbers -/

/-- What is accepted as a value of a type is finite in it. -/
theorem ScalarType.isFinite_of_accepts {t : ScalarType} {v : ParamValue} {x : Scalar}
    (ht : t.accepts v = true) (h : t.cast? v = some x) : x.isFinite = true := by
  unfold cast? at h
  split at h
  case h_2 y =>
    split at h
    · next hfinite =>
      obtain rfl := Option.some.inj h
      exact hfinite
    · cases h
  -- an integer is not accepted as a double, though it could be cast to one
  case h_3 => cases ht
  case h_6 => exact isFinite_of_read? h
  case h_7 => cases h
  all_goals
    obtain rfl := Option.some.inj h
    rfl

theorem ScalarType.accepts_of_infer {t : ScalarType} {v : ParamValue} (h : infer v = .ok t) :
    t.accepts v = true := by
  unfold infer at h
  split at h
  · next ht =>
    obtain rfl := Except.ok.inj h
    rw [infer?] at ht
    simpa using List.find?_some ht
  · cases h

theorem ScalarType.cast_eq_ok {t : ScalarType} {v : ParamValue} {x : Scalar} :
    t.cast v = .ok x ↔ t.cast? v = some x := by
  unfold cast
  cases t.cast? v <;> simp

theorem ScalarType.cast_eq_error {t : ScalarType} {v : ParamValue} {e : FilterError} :
    t.cast v = .error e ↔ t.cast? v = none ∧ e = .castFailed v.raw t := by
  unfold cast
  cases t.cast? v <;> simp [eq_comm]

namespace ParamValue

/-- **A value stands for nothing infinite.** -/
theorem isFinite_of_toScalar {v : ParamValue} {x : Scalar} (h : v.toScalar = .ok x) :
    x.isFinite = true := by
  unfold toScalar at h
  split at h
  · split at h
    · next hfinite =>
      obtain rfl := Except.ok.inj h
      exact hfinite
    · cases h
  · obtain ⟨t, ht, hx⟩ := bind_eq_ok.mp h
    exact ScalarType.isFinite_of_accepts (ScalarType.accepts_of_infer ht)
      (ScalarType.cast_eq_ok.mp hx)

theorem isFinite_of_mem_toScalars {v : Option ParamValue} {xs : List Scalar}
    (h : toScalars v = .ok xs) : ∀ x ∈ xs, x.isFinite = true := by
  unfold toScalars at h
  split at h
  · obtain rfl := Except.ok.inj h
    simp
  · next s =>
    split at h
    · obtain rfl := Except.ok.inj h
      simp
    · split at h
      · obtain rfl := Except.ok.inj h
        simp
      · next first rest helements =>
        obtain ⟨t, -, h⟩ := bind_eq_ok.mp h
        intro x hx
        obtain ⟨element, helement, hcast⟩ := (mem_mapM h).mp hx
        -- all elements are texts
        rw [← helements] at helement
        obtain ⟨cs, -, rfl⟩ := List.mem_map.mp helement
        rw [ScalarType.cast_eq_ok, ScalarType.cast?_text] at hcast
        exact ScalarType.isFinite_of_read? hcast
  · obtain ⟨x, hx, h⟩ := bind_eq_ok.mp h
    obtain rfl := Except.ok.inj h
    exact List.forall_mem_singleton.mpr (isFinite_of_toScalar hx)

/-- A scalar is what a value stands for, or one of the scalars that it lists. -/
def Yields (v : ParamValue) (x : Scalar) : Prop :=
  v.toScalar = .ok x ∨ ∃ xs, toScalars (some v) = .ok xs ∧ x ∈ xs

theorem Yields.isFinite {v : ParamValue} {x : Scalar} (h : v.Yields x) : x.isFinite = true := by
  rcases h with hx | ⟨xs, hxs, hx⟩
  · exact isFinite_of_toScalar hx
  · exact isFinite_of_mem_toScalars hxs x hx

end ParamValue

/-! ### Types -/

theorem ScalarType.type_of_read? {t : ScalarType} {s : String} {x : Scalar}
    (h : t.read? s = some x) : x.type = t := by
  cases t <;> simp only [ScalarType.read?, Option.map_eq_some_iff, Option.some.injEq] at h
  case string =>
    subst h
    rfl
  all_goals
    obtain ⟨y, -, rfl⟩ := h
    rfl

theorem ScalarType.type_of_cast? {t : ScalarType} {v : ParamValue} {x : Scalar}
    (h : t.cast? v = some x) : x.type = t := by
  unfold ScalarType.cast? at h
  split at h
  case h_2 =>
    split at h
    · obtain rfl := Option.some.inj h
      rfl
    · cases h
  case h_6 => exact ScalarType.type_of_read? h
  case h_7 => cases h
  all_goals
    obtain rfl := Option.some.inj h
    rfl

theorem ScalarType.type_of_cast {t : ScalarType} {v : ParamValue} {x : Scalar}
    (h : t.cast v = .ok x) : x.type = t :=
  ScalarType.type_of_cast? (ScalarType.cast_eq_ok.mp h)

theorem ParamValue.type_of_toScalar {v : ParamValue} {t : ScalarType} {x : Scalar}
    (ht : ScalarType.infer? v = some t) (hx : v.toScalar = .ok x) : x.type = t := by
  have hinfer : ScalarType.infer v = .ok t := by rw [ScalarType.infer, ht]
  unfold ParamValue.toScalar at hx
  split at hx
  · next f =>
    split at hx
    · next hfinite =>
      obtain rfl := Except.ok.inj hx
      -- a float is not cast, but a double is what it would be inferred to be
      have hdouble : ScalarType.infer? (.float f) = some .double := by
        simp [ScalarType.infer?, ScalarType.all, ScalarType.accepts, hfinite]
      exact Option.some.inj (hdouble.symm.trans ht)
    · cases hx
  · rw [hinfer] at hx
    exact ScalarType.type_of_cast hx

/-! ### Conditions -/

theorem Condition.requiredValue_eq_ok {p : Param} {v : ParamValue} :
    requiredValue p = .ok v ↔ p.value = some v := by
  unfold requiredValue
  cases p.value <;> simp

/-- What a parameter asks of a row with an operation. -/
inductive Param.Asks (p : Param) : SearchOperation → Condition → Prop
  /-- A comparison of order without a value asks for nothing. -/
  | everything {c : Comparison} : p.value = none → c ≠ .equal → c ≠ .notEqual →
    Asks p (.compare c) .everything
  | compare {c : Comparison} {v : ParamValue} {x : Scalar} : p.value = some v →
    v.toScalar = .ok x → Asks p (.compare c) (.compare p.name c x)
  | like {v : ParamValue} : p.value = some v →
    Asks p .like (.like p.name (String.ofList (Condition.likePattern v.raw)))
  /-- No row is, or is not, in a list without elements. -/
  | nothing {negated : Bool} : ParamValue.toScalars p.value = .ok [] →
    Asks p (.member negated) .nothing
  | member {negated : Bool} {x : Scalar} {xs : List Scalar} :
    ParamValue.toScalars p.value = .ok (x :: xs) →
    Asks p (.member negated) (.member p.name negated (x :: xs))
  | isNull : Asks p .isNull (.isNull p.name)
  | contains {v : ParamValue} : p.value = some v →
    Asks p .contains (.contains p.name (Condition.containsTokens v.raw))

/-- **A parameter is a condition if and only if it asks for it.** -/
theorem Condition.ofParam_eq_ok {operation : SearchOperation} {p : Param} {c : Condition} :
    ofParam operation p = .ok c ↔ p.Asks operation c := by
  constructor
  · intro h
    cases operation with
    | compare comparison =>
      rw [ofParam] at h
      split at h
      · next hmissing =>
        obtain rfl := Except.ok.inj h
        obtain ⟨hnone, hequal, hnotEqual⟩ := hmissing
        exact .everything (Option.isNone_iff_eq_none.mp hnone) hequal hnotEqual
      · obtain ⟨v, hv, h⟩ := bind_eq_ok.mp h
        obtain ⟨x, hx, h⟩ := bind_eq_ok.mp h
        obtain rfl := Except.ok.inj h
        exact .compare (requiredValue_eq_ok.mp hv) hx
    | like =>
      obtain ⟨v, hv, h⟩ := bind_eq_ok.mp h
      obtain rfl := Except.ok.inj h
      exact .like (requiredValue_eq_ok.mp hv)
    | member negated =>
      obtain ⟨xs, hxs, h⟩ := bind_eq_ok.mp h
      cases xs <;> obtain rfl := Except.ok.inj h
      · exact .nothing hxs
      · exact .member hxs
    | isNull =>
      obtain rfl := Except.ok.inj h
      exact .isNull
    | contains =>
      obtain ⟨v, hv, h⟩ := bind_eq_ok.mp h
      obtain rfl := Except.ok.inj h
      exact .contains (requiredValue_eq_ok.mp hv)
  · intro h
    cases h with
    | everything hnone hequal hnotEqual =>
      exact if_pos ⟨Option.isNone_iff_eq_none.mpr hnone, hequal, hnotEqual⟩
    | @compare c v x hv hx =>
      have hpresent : ¬ (p.value.isNone = true ∧ c ≠ .equal ∧ c ≠ .notEqual) := by simp [hv]
      rw [ofParam, if_neg hpresent, requiredValue_eq_ok.mpr hv]
      show v.toScalar.bind _ = _
      rw [hx]
      rfl
    | nothing hxs | member hxs =>
      rw [ofParam, hxs]
      rfl
    | isNull => rfl
    | like hv | contains hv =>
      rw [ofParam, requiredValue_eq_ok.mpr hv]
      rfl

theorem Condition.ofParam_compare {p : Param} {v : ParamValue} {x : Scalar} (hv : p.value = some v)
    (hx : v.toScalar = .ok x) (c : Comparison) :
    ofParam (.compare c) p = .ok (.compare p.name c x) :=
  ofParam_eq_ok.mpr (.compare hv hx)

theorem Condition.ofParam_member {p : Param} {x : Scalar} {xs : List Scalar}
    (hxs : ParamValue.toScalars p.value = .ok (x :: xs)) (negated : Bool) :
    ofParam (.member negated) p = .ok (.member p.name negated (x :: xs)) :=
  ofParam_eq_ok.mpr (.member hxs)

/-- The values in a condition. -/
def Condition.scalars : Condition → List Scalar
  | .compare _ _ value => [value]
  | .member _ _ values => values
  | _ => []

/-- **What a parameter asks of a row has nothing infinite in it.** -/
theorem Condition.isFinite_of_mem_scalars {operation : SearchOperation} {p : Param} {c : Condition}
    (h : ofParam operation p = .ok c) : ∀ x ∈ c.scalars, x.isFinite = true := by
  cases ofParam_eq_ok.mp h with
  | compare _ hx => exact List.forall_mem_singleton.mpr (ParamValue.isFinite_of_toScalar hx)
  | member hxs => exact ParamValue.isFinite_of_mem_toScalars hxs
  | _ => exact List.forall_mem_nil _

theorem Backend.search_of_ofParam {F : Type} {b : Backend F} {operation : SearchOperation}
    {p : Param} {c : Condition} (h : Condition.ofParam operation p = .ok c) :
    b.search operation p = b.condition c := by
  rw [search, h]
  rfl

end FilterQuery
