import FilterQuery.Proofs.Request.Typing

/-!
# Inference on texts and lists

Every text has a type. The first four types accept what they read, and a text that none of them
reads is no instant, so it is accepted as a string. What is accepted can be read, hence a text
always stands for a scalar: for what the first type that reads it makes of it
(`toScalar_text_eq_ok`).

A text with commas is also a list. There is one way to take it apart (`parted_iff`), and all parts
are read as the type of the first, which may fail. So a list is a list of scalars, one for each part
and all of one type, or the error of the first part that is not of the type
(`toScalars_parted_eq_ok`, `toScalars_parted_eq_error`).
-/

namespace FilterQuery

/-! ### Texts -/

namespace ScalarType

theorem infer?_text (s : String) : infer? (.text s) = all.find? (·.acceptsText s) := by
  have haccepts (t : ScalarType) : t.accepts (.text s) = t.acceptsText s := by cases t <;> rfl
  rw [infer?, funext haccepts]

/-- Inference never ends without a type. -/
theorem exists_infer?_text (s : String) : ∃ t, infer? (.text s) = some t := by
  apply Option.isSome_iff_exists.mp
  rw [infer?_text, List.find?_isSome]
  cases h : Instant.read? s with
  | none => exact ⟨.string, by decide, by simp [acceptsText, h]⟩
  | some i => exact ⟨.instant, by decide, by simp [acceptsText, read?, h]⟩

/-- The scalar that a text stands for is the first that it can be read as. -/
theorem findSome?_read?_eq (s : String) :
    all.findSome? (·.read? s) = (infer? (.text s)).bind (·.read? s) := by
  rw [infer?_text]
  simp only [all, List.findSome?_cons, List.find?_cons, acceptsText, read?]
  cases Numeral.long? s with
  | some i => rfl
  | none =>
    cases Binary64.readFinite? s with
    | some x => rfl
    | none =>
      cases readBoolean? s with
      | some b => rfl
      | none => cases Instant.read? s <;> rfl

/-- The type that is inferred for a text reads it. -/
theorem exists_read?_of_infer? {s : String} {t : ScalarType} (h : infer? (.text s) = some t) :
    ∃ x, t.read? s = some x := by
  rw [infer?_text] at h
  have haccepts : t.acceptsText s = true := by simpa using List.find?_some h
  apply Option.isSome_iff_exists.mp
  cases t with
  | string => rfl
  | _ => exact haccepts

end ScalarType

namespace ParamValue

/-- **A text stands for what the first type that reads it makes of it.** -/
theorem toScalar_text_eq_ok {s : String} {x : Scalar} :
    toScalar (.text s) = .ok x ↔ ScalarType.all.findSome? (·.read? s) = some x := by
  obtain ⟨t, ht⟩ := ScalarType.exists_infer?_text s
  obtain ⟨y, hy⟩ := ScalarType.exists_read?_of_infer? ht
  rw [ScalarType.findSome?_read?_eq, ht, toScalar_of_infer? ht hy, Option.bind_some, hy]
  simp

end ParamValue

/-! ### Values that are no lists -/

namespace ParamValue

theorem exists_toScalar_text (s : String) : ∃ x, toScalar (.text s) = .ok x := by
  obtain ⟨t, ht⟩ := ScalarType.exists_infer?_text s
  obtain ⟨x, hx⟩ := ScalarType.exists_read?_of_infer? ht
  exact ⟨x, toScalar_of_infer? ht hx⟩

/-- A value is one scalar and no list: it has a type of its own, or it is a text without commas, and
not a blank one. -/
inductive Single : ParamValue → Prop
  | bool (b : Bool) : Single (.bool b)
  | integer (i : Int) : Single (.integer i)
  | float {x : Binary64} : x.isFinite = true → Single (.float x)
  | instant (i : Instant) : Single (.instant i)
  | text {s : String} : Text.isAllBlank s = false → ',' ∉ s.toList → Single (.text s)

/-- **A value that is no list lists itself.** -/
theorem Single.exists_toScalar {v : ParamValue} (h : v.Single) :
    ∃ x, v.toScalar = .ok x ∧ toScalars (some v) = .ok [x] := by
  cases h with
  | bool b => exact ⟨.boolean b, rfl, rfl⟩
  | integer i => exact ⟨.long i, rfl, rfl⟩
  | @float x hfinite =>
    have hx : toScalar (.float x) = .ok (.double x) := if_pos hfinite
    refine ⟨.double x, hx, ?_⟩
    show (toScalar (.float x)).bind _ = _
    rw [hx]
    rfl
  | instant i => exact ⟨.instant i, rfl, rfl⟩
  | @text s hblank hcomma =>
    obtain ⟨x, hx⟩ := exists_toScalar_text s
    refine ⟨x, hx, ?_⟩
    rw [toScalars_of_not_mem hblank hcomma, hx]
    rfl

end ParamValue

/-! ### Lists -/

theorem not_mem_of_mem_splitOn {α : Type} [BEq α] [LawfulBEq α] {a : α} {xs part : List α}
    (h : part ∈ xs.splitOn a) : a ∉ part := by
  induction xs generalizing part with
  | nil =>
    rw [List.splitOn_nil] at h
    simp [List.mem_singleton.mp h]
  | cons x xs ih =>
    rw [List.splitOn_cons_eq_if_modifyHead] at h
    split at h
    · rcases List.mem_cons.mp h with rfl | h
      · exact List.not_mem_nil
      · exact ih h
    · next hx =>
      obtain ⟨first, rest, hparts⟩ := List.exists_cons_of_ne_nil (List.splitOn_ne_nil a xs)
      rw [hparts] at h ih
      rcases List.mem_cons.mp h with rfl | h
      · have hne : a ≠ x := fun heq => hx (beq_iff_eq.mpr heq.symm)
        exact List.not_mem_cons_of_ne_of_not_mem hne (ih (List.mem_cons_self))
      · exact ih (List.mem_cons_of_mem _ h)

/-- The parts of a text are what its commas part. There is always one, and it may be empty. -/
structure Parted (s : String) (parts : List String) : Prop where
  ne_nil : parts ≠ []
  not_mem : ∀ part ∈ parts, ',' ∉ part.toList
  joined : ",".intercalate parts = s

/-- **A text has one list of parts.** -/
theorem parted_iff {s : String} {parts : List String} :
    Parted s parts ↔ parts = (s.toList.splitOn ',').map String.ofList := by
  constructor
  · rintro ⟨hne, hcomma, rfl⟩
    have hsplit : ([','].intercalate (parts.map String.toList)).splitOn ',' =
        parts.map String.toList :=
      List.splitOn_intercalate ',' (by simpa using hcomma) (by simpa using hne)
    have hchars : (",".intercalate parts).toList = [','].intercalate (parts.map String.toList) :=
      String.toList_intercalate
    rw [hchars, hsplit, List.map_map]
    simp [Function.comp_def]
  · rintro rfl
    refine ⟨by simp [List.splitOn_ne_nil], ?_, ?_⟩
    · intro part hpart
      obtain ⟨cs, hcs, rfl⟩ := List.mem_map.mp hpart
      rw [String.toList_ofList]
      exact not_mem_of_mem_splitOn hcs
    · apply String.toList_injective
      rw [String.toList_intercalate, List.map_map]
      simp [Function.comp_def, List.intercalate_splitOn]

theorem Parted.unique {s : String} {parts others : List String} (h : Parted s parts)
    (h' : Parted s others) : parts = others :=
  (parted_iff.mp h).trans (parted_iff.mp h').symm

theorem Parted.listElements_eq {s : String} {parts : List String} (h : Parted s parts) :
    listElements s = parts.map .text := by
  rw [parted_iff.mp h, listElements, List.map_map]
  rfl

theorem exists_parted (s : String) : ∃ first rest, Parted s (first :: rest) := by
  obtain ⟨first, rest, hparts⟩ := List.exists_cons_of_ne_nil (List.splitOn_ne_nil ',' s.toList)
  exact ⟨String.ofList first, rest.map String.ofList, parted_iff.mpr (by rw [hparts]; rfl)⟩

namespace ParamValue

theorem toScalars_of_isAllBlank {s : String} (h : Text.isAllBlank s = true) :
    toScalars (some (.text s)) = .ok [] := by
  rw [toScalars, if_pos h]

variable {s first : String} {rest : List String} {t : ScalarType}

/-- A list is cast part by part, to the type of the first. -/
theorem toScalars_parted (hblank : Text.isAllBlank s = false) (hparts : Parted s (first :: rest))
    (ht : ScalarType.infer? (.text first) = some t) :
    toScalars (some (.text s)) = (first :: rest).mapM fun part => t.cast (.text part) := by
  have helements : listElements s = .text first :: rest.map .text := hparts.listElements_eq
  have hinfer : ScalarType.infer (.text first) = .ok t := by rw [ScalarType.infer, ht]
  rw [toScalars, if_neg (by simp [hblank]), helements]
  show (ScalarType.infer (.text first)).bind (fun t => ((first :: rest).map .text).mapM t.cast) = _
  rw [hinfer]
  show ((first :: rest).map ParamValue.text).mapM t.cast = _
  rw [List.mapM_map]
  rfl

/-- **A list that is cast has one scalar for each part**, in order and of one type. -/
theorem toScalars_parted_eq_ok (hblank : Text.isAllBlank s = false)
    (hparts : Parted s (first :: rest)) (ht : ScalarType.infer? (.text first) = some t)
    {xs : List Scalar} :
    toScalars (some (.text s)) = .ok xs ↔
      List.Forall₂ (fun part x => t.cast? (.text part) = some x ∧ x.type = t)
        (first :: rest) xs := by
  have hcast (part : String) (x : Scalar) : t.cast (.text part) = .ok x ↔
      t.cast? (.text part) = some x ∧ x.type = t := by
    rw [ScalarType.cast_eq_ok]
    exact (and_iff_left_of_imp ScalarType.type_of_cast?).symm
  rw [toScalars_parted hblank hparts ht, mapM_eq_ok]
  simp only [hcast]

/-- **A list that is not cast fails on the first part that is not of the type.** -/
theorem toScalars_parted_eq_error (hblank : Text.isAllBlank s = false)
    (hparts : Parted s (first :: rest)) (ht : ScalarType.infer? (.text first) = some t)
    {e : FilterError} :
    toScalars (some (.text s)) = .error e ↔
      ∃ before part after, first :: rest = before ++ part :: after ∧
        (∀ earlier ∈ before, ∃ x, t.cast? (.text earlier) = some x) ∧
        t.cast? (.text part) = none ∧ e = .castFailed part t := by
  rw [toScalars_parted hblank hparts ht, mapM_eq_error]
  simp only [ScalarType.cast_eq_ok, ScalarType.cast_eq_error]
  rfl

end ParamValue

end FilterQuery
