import FilterQuery.Memory.Predicate
import FilterQuery.Proofs.Paging.Attribute
import Mathlib.Data.List.Induction

/-!
# Which of several paging values counts

A page is asked for in three fields, and each has its own operation and its own reading of values
(`PageField`). In a list the last parameter of an operation counts, even if it has no value and
takes back what was asked for before (`PageField.get_ofParams`). Among groups the first counts that
says something in the end (`PageField.get_ofGroups`), and the page attribute goes before all groups
(`PageField.get_merge`).

None of this hides a value that cannot be used. The first one is the error, wherever it stands and
whatever goes before it (`PageAttribute.ofGroups_eq_error`); the sort specification is not looked at
before all values are read. Together this is `page_precedence_is_determined`.
-/

namespace FilterQuery

/-! ### Values -/

/-- The count that a value is, if it is one. A text may have blanks around it. -/
def ParamValue.count? : ParamValue → Option Nat
  | .integer i => if 0 ≤ i then some i.toNat else none
  | .text s => Numeral.count? (Text.trim s.toList)
  | _ => none

/-- Whether an operation can use a value. Any text may be a sort specification, as far as this
goes. -/
def PagingOperation.Takes : PagingOperation → Option ParamValue → Prop
  | .limit, value => ∃ n, value.bind ParamValue.count? = some n ∧ n ≤ Numeral.limitMax
  | .offset, value => ∃ n, value.bind ParamValue.count? = some n
  | .sortBy, _ => True

instance (operation : PagingOperation) (value : Option ParamValue) :
    Decidable (operation.Takes value) :=
  match operation with
  | .limit => decidable_of_iff ((value.bind ParamValue.count?).any (· ≤ Numeral.limitMax) = true)
    (by simp [PagingOperation.Takes, Option.any_eq_true])
  | .offset => decidable_of_iff ((value.bind ParamValue.count?).isSome = true)
    Option.isSome_iff_exists
  | .sortBy => isTrue trivial

/-- Whether a parameter has a value that can be used, as far as it is about the page. -/
def Param.Usable (p : Param) : Prop :=
  ∀ operation, p.paging? = some operation → operation.Takes p.value

instance (p : Param) : Decidable p.Usable :=
  inferInstanceAs (Decidable (∀ operation ∈ p.paging?, operation.Takes p.value))

/-- A parameter is the first whose value its operation cannot use. -/
def FirstUnusable (ps : List Param) (p : Param) (operation : PagingOperation) : Prop :=
  (∃ before after, ps = before ++ p :: after ∧ ∀ q ∈ before, q.Usable) ∧
    p.paging? = some operation ∧ ¬ operation.Takes p.value

namespace PageAttribute

/-- The text in which a value that cannot be used is reported: the count, or else the value as it
came in. -/
def reported (value : Option ParamValue) : String :=
  match value.bind ParamValue.count? with
  | some n => toString n
  | none => (value.map ParamValue.raw).getD ""

/-- The attribute with a value that can be used. Where there is none for a sort specification, an
earlier one is taken back. -/
def set (a : PageAttribute) (operation : PagingOperation) (value : Option ParamValue) :
    PageAttribute :=
  match operation with
  | .limit => { a with limit := value.bind ParamValue.count? }
  | .offset => { a with offset := value.bind ParamValue.count? }
  | .sortBy => { a with sortBy := value.map ParamValue.raw }

theorem number_eq (operation : PagingOperation) (value : Option ParamValue) :
    number operation value =
      match value.bind ParamValue.count? with
      | some n => .ok n
      | none => .error (unusable operation (reported value)) := by
  cases value with
  | none => rfl
  | some v =>
    cases v with
    | integer i =>
      by_cases hi : 0 ≤ i <;>
        simp [number, reported, ParamValue.count?, ParamValue.raw, hi]
    | text s =>
      cases hs : Numeral.count? (Text.trim s.toList) <;>
        simp [number, reported, ParamValue.count?, ParamValue.raw, hs]
    | bool _ | float _ | instant _ | group _ | structured _ => rfl

variable {a : PageAttribute} {operation : PagingOperation} {value : Option ParamValue}

theorem number_eq_ok {n : Nat} :
    number operation value = .ok n ↔ value.bind ParamValue.count? = some n := by
  rw [number_eq]
  cases value.bind ParamValue.count? <;> simp

theorem add_of_takes (h : operation.Takes value) :
    a.add operation value = .ok (a.set operation value) := by
  cases operation with
  | limit =>
    obtain ⟨n, hn, hmax⟩ := h
    simp only [add, set, number_eq, hn]
    exact if_pos hmax
  | offset =>
    obtain ⟨n, hn⟩ := h
    simp only [add, set, number_eq, hn]
    rfl
  | sortBy => rfl

theorem add_of_not_takes (h : ¬ operation.Takes value) :
    a.add operation value = .error (unusable operation (reported value)) := by
  cases operation with
  | limit =>
    cases hcount : value.bind ParamValue.count? with
    | none =>
      simp only [add, number_eq, hcount]
      rfl
    | some n =>
      have hmax : ¬ n ≤ Numeral.limitMax := fun hmax => h ⟨n, hcount, hmax⟩
      simp only [add, number_eq, reported, hcount]
      exact if_neg hmax
  | offset =>
    have hcount : value.bind ParamValue.count? = none :=
      Option.eq_none_iff_forall_ne_some.mpr fun n hn => h ⟨n, hn⟩
    simp only [add, number_eq, hcount]
    rfl
  | sortBy => exact absurd trivial h

/-! ### The first error -/

variable {a b : Option PageAttribute} {p : Param} {e : FilterError}

theorem addParam_of_takes (hp : p.paging? = some operation) (h : operation.Takes p.value) :
    addParam a p = .ok (some ((a.getD {}).set operation p.value)) := by
  simp only [addParam, hp, add_of_takes h]
  rfl

theorem addParam_of_not_takes (hp : p.paging? = some operation) (h : ¬ operation.Takes p.value) :
    addParam a p = .error (unusable operation (reported p.value)) := by
  simp only [addParam, hp, add_of_not_takes h]
  rfl

theorem addParam_eq_ok :
    addParam a p = .ok b ↔ p.Usable ∧
      (p.paging?.map fun operation => (a.getD {}).set operation p.value).or a = b := by
  unfold Param.Usable
  cases hp : p.paging? with
  | none => simp [addParam_of_not_paging hp]
  | some operation =>
    by_cases h : operation.Takes p.value
    · simp [addParam_of_takes hp h, h]
    · simp [addParam_of_not_takes hp h, h]

theorem addParam_eq_error :
    addParam a p = .error e ↔ ∃ operation, p.paging? = some operation ∧
      ¬ operation.Takes p.value ∧ unusable operation (reported p.value) = e := by
  cases hp : p.paging? with
  | none => simp [addParam_of_not_paging hp]
  | some operation =>
    by_cases h : operation.Takes p.value
    · simp [addParam_of_takes hp h, h]
    · simp [addParam_of_not_takes hp h, h]

theorem ofParams_eq_error (ps : List Param) :
    ofParams ps = .error e ↔ ps.mapM (addParam none) = .error e := by
  unfold ofParams
  apply foldlM_eq_error
  intro a p e
  rw [addParam_eq_error, addParam_eq_error]

/-- Groups fail as all their parameters in one list do, each on its own. -/
theorem ofGroups_eq_error_iff {groups : List Group} :
    ofGroups groups = .error e ↔
      (groups.flatMap Group.params).mapM (addParam none) = .error e := by
  rw [mapM_flatMap, map_eq_error]
  unfold ofGroups
  apply foldlM_eq_error
  intro a g e
  rw [bind_eq_error, ofParams_eq_error]
  simp

/-- **Groups fail with the error of the first value that cannot be used.** -/
theorem ofGroups_eq_error {groups : List Group} :
    ofGroups groups = .error e ↔ ∃ p operation,
      FirstUnusable (groups.flatMap Group.params) p operation ∧
        unusable operation (reported p.value) = e := by
  rw [ofGroups_eq_error_iff, mapM_eq_error]
  simp only [addParam_eq_error, addParam_eq_ok, exists_and_left, exists_eq', and_true]
  constructor
  · rintro ⟨before, p, after, hps, hbefore, operation, hp, htakes, he⟩
    exact ⟨p, operation, ⟨⟨before, after, hps, hbefore⟩, hp, htakes⟩, he⟩
  · rintro ⟨p, operation, ⟨⟨before, after, hps, hbefore⟩, hp, htakes⟩, he⟩
    exact ⟨before, p, after, hps, hbefore, operation, hp, htakes, he⟩

theorem exists_ofGroups_eq_ok {groups : List Group} :
    (∃ a, ofGroups groups = .ok a) ↔ ∀ p ∈ groups.flatMap Group.params, p.Usable := by
  rw [exists_eq_ok_iff fun _ => ofGroups_eq_error_iff, exists_mapM_eq_ok]
  simp only [addParam_eq_ok, exists_and_left, exists_eq', and_true]

theorem exists_firstUnusable {groups : List Group}
    (h : ¬ ∀ p ∈ groups.flatMap Group.params, p.Usable) :
    ∃ p operation, FirstUnusable (groups.flatMap Group.params) p operation := by
  cases hgroups : ofGroups groups with
  | ok a => exact absurd (exists_ofGroups_eq_ok.mp ⟨a, hgroups⟩) h
  | error e =>
    obtain ⟨p, operation, hfirst, -⟩ := ofGroups_eq_error.mp hgroups
    exact ⟨p, operation, hfirst⟩

end PageAttribute

/-! ### Fields -/

/-- A field of the page, with the operation that sets it and the reading of its value. -/
structure PageField (α : Type) where
  get : PageAttribute → Option α
  operation : PagingOperation
  read : ParamValue → Option α
  get_empty : get {} = none
  get_or : ∀ a b, get (a.or b) = (get a).or (get b)
  get_set : ∀ a operation' value, get (a.set operation' value) =
    if operation' = operation then value.bind read else get a

namespace PageField

/-- The row limit. -/
def limit : PageField Nat where
  get := PageAttribute.limit
  operation := .limit
  read := ParamValue.count?
  get_empty := rfl
  get_or _ _ := rfl
  get_set _ operation' _ := by cases operation' <;> rfl

/-- The number of rows to leave out. -/
def offset : PageField Nat where
  get := PageAttribute.offset
  operation := .offset
  read := ParamValue.count?
  get_empty := rfl
  get_or _ _ := rfl
  get_set _ operation' _ := by cases operation' <;> rfl

/-- The sort specification. -/
def sortBy : PageField String where
  get := PageAttribute.sortBy
  operation := .sortBy
  read v := some v.raw
  get_empty := rfl
  get_or _ _ := rfl
  get_set _ operation' value := by cases operation' <;> cases value <;> rfl

variable {α : Type} (field : PageField α)

/-- What the last parameter of the operation says. -/
def said (ps : List Param) : Option α :=
  (ps.filter fun p => p.paging? = some field.operation).getLast?.bind fun p =>
    p.value.bind field.read

/-- What a request asks for: in its page attribute, or else in the first group that says
something. -/
def wanted (r : GroupedRequest) : Option α :=
  (field.get (r.page.getD {})).or (r.groups.findSome? fun g => field.said g.params)

theorem said_concat (ps : List Param) (p : Param) :
    field.said (ps ++ [p]) =
      if p.paging? = some field.operation then p.value.bind field.read else field.said ps := by
  unfold said
  by_cases hp : p.paging? = some field.operation
  · simp [hp]
  · simp [hp]

/-- **In a list the last parameter counts.** -/
theorem get_ofParams {ps : List Param} {a : Option PageAttribute}
    (h : PageAttribute.ofParams ps = .ok a) : field.get (a.getD {}) = field.said ps := by
  induction ps using List.reverseRecOn generalizing a with
  | nil =>
    obtain rfl : none = a := Except.ok.inj h
    exact field.get_empty
  | append_singleton ps p ih =>
    rw [PageAttribute.ofParams, List.foldlM_append, bind_eq_ok] at h
    obtain ⟨b, hb, h⟩ := h
    rw [List.foldlM_cons, bind_eq_ok] at h
    obtain ⟨c, hc, h⟩ := h
    obtain rfl : c = a := Except.ok.inj h
    obtain ⟨-, rfl⟩ := PageAttribute.addParam_eq_ok.mp hc
    rw [said_concat, ← ih hb]
    cases p.paging? with
    | none => simp
    | some operation => simp [field.get_set]

theorem get_merge (a b : Option PageAttribute) :
    field.get ((PageAttribute.merge a b).getD {}) =
      (field.get (a.getD {})).or (field.get (b.getD {})) := by
  cases a with
  | none =>
    rw [PageAttribute.merge_none_left]
    simp [field.get_empty]
  | some a =>
    cases b with
    | none => simp [PageAttribute.merge_none_right, field.get_empty]
    | some b => exact field.get_or a b

/-- **Among groups the first that says something counts.** -/
theorem get_ofGroups {groups : List Group} {a : Option PageAttribute}
    (h : PageAttribute.ofGroups groups = .ok a) :
    field.get (a.getD {}) = groups.findSome? fun g => field.said g.params := by
  rw [PageAttribute.ofGroups_eq, map_eq_ok] at h
  obtain ⟨as, has, rfl⟩ := h
  induction groups generalizing as with
  | nil =>
    obtain rfl : [] = as := Except.ok.inj has
    exact field.get_empty
  | cons g groups ih =>
    obtain ⟨b, bs, hb, hbs, rfl⟩ := mapM_cons_eq_ok.mp has
    rw [PageAttribute.mergeAll_cons, get_merge, field.get_ofParams hb, ih bs hbs]
    rw [List.findSome?_cons]
    cases field.said g.params <;> rfl

end PageField

/-! ### Pages -/

/-- The page that a request asks for, in this order. -/
def Page.wanted (config : Config) (r : GroupedRequest) (orders : List SortKey) : Page where
  offset := (PageField.offset.wanted r).getD config.defaultOffset
  limit := (PageField.limit.wanted r).getD config.defaultLimit
  orders := orders

section

variable {config : Config} {allowed : List String} {r : GroupedRequest}

theorem Page.ofGrouped_of_firstUnusable {p : Param} {operation : PagingOperation}
    (h : FirstUnusable (r.groups.flatMap Group.params) p operation) :
    Page.ofGrouped config allowed r =
      .error (PageAttribute.unusable operation (PageAttribute.reported p.value)) := by
  rw [Page.ofGrouped, PageAttribute.ofGroups_eq_error.mpr ⟨p, operation, h, rfl⟩]
  rfl

theorem Page.ofGrouped_of_usable (h : ∀ p ∈ r.groups.flatMap Group.params, p.Usable) :
    Page.ofGrouped config allowed r =
      (SortSpecification.resolve allowed (PageField.sortBy.wanted r)).map
        (Page.wanted config r) := by
  obtain ⟨a, ha⟩ := PageAttribute.exists_ofGroups_eq_ok.mpr h
  have hfield : ∀ {α : Type} (field : PageField α),
      field.get ((PageAttribute.merge r.page a).getD {}) = field.wanted r := by
    intro α field
    rw [field.get_merge, field.get_ofGroups ha]
    rfl
  unfold Page.ofGrouped Page.wanted
  rw [ha, ← hfield PageField.sortBy, ← hfield PageField.offset, ← hfield PageField.limit]
  show Page.resolve config allowed (PageAttribute.merge r.page a) = _
  generalize PageAttribute.merge r.page a = wanted
  unfold Page.resolve
  show SortSpecification.resolve allowed (wanted.getD {}).sortBy >>= _ =
    (SortSpecification.resolve allowed (wanted.getD {}).sortBy).map _
  cases SortSpecification.resolve allowed (wanted.getD {}).sortBy <;> rfl

end

/-- **The page of a request is fully determined.** The first value that cannot be used is the error,
even if another one goes before it. If there is none, each field is taken from the page attribute,
or else from the first group whose last parameter for the field has a value, or else it is the
default. Only then can the sort specification be an error. -/
theorem page_precedence_is_determined {F : Type} (e : Engine F) (allowed : List String)
    {r : GroupedRequest} {f : F} (hf : e.filterGroups r.groups r.glue = .ok f) :
    let params := r.groups.flatMap Group.params
    let sorting := SortSpecification.resolve allowed (PageField.sortBy.wanted r)
    (∀ p operation, FirstUnusable params p operation →
      e.planGrouped allowed r =
        .error (.invalidPagingValue operation.code (PageAttribute.reported p.value))) ∧
    ((∀ p ∈ params, p.Usable) →
      e.planGrouped allowed r = sorting.map fun orders => ⟨f, Page.wanted e.config r orders⟩) ∧
    ((∀ p ∈ params, p.Usable) → PageField.sortBy.wanted r = none →
      e.planGrouped allowed r = .ok ⟨f, Page.wanted e.config r []⟩) ∧
    ∀ error, (∃ listed, error = .invalidTokens listed) ∨ (∃ field, error = .unknownField field) →
      e.planGrouped allowed r = .error error →
        (∀ p ∈ params, p.Usable) ∧ sorting = .error error := by
  intro params sorting
  have hunusable : ∀ p operation, FirstUnusable params p operation →
      e.planGrouped allowed r =
        .error (.invalidPagingValue operation.code (PageAttribute.reported p.value)) := by
    intro p operation h
    rw [Engine.planGrouped_of_filterGroups hf, Page.ofGrouped_of_firstUnusable h]
    rfl
  have husable : (∀ p ∈ params, p.Usable) →
      e.planGrouped allowed r = sorting.map fun orders => ⟨f, Page.wanted e.config r orders⟩ := by
    intro h
    rw [Engine.planGrouped_of_filterGroups hf, Page.ofGrouped_of_usable h]
    show (sorting.map _).map _ = _
    cases sorting <;> rfl
  refine ⟨hunusable, husable, ?_, ?_⟩
  · intro h hnone
    rw [husable h]
    show (SortSpecification.resolve allowed (PageField.sortBy.wanted r)).map _ = _
    rw [hnone]
    rfl
  · intro error hsort herror
    by_cases h : ∀ p ∈ params, p.Usable
    · exact ⟨h, map_eq_error.mp ((husable h).symm.trans herror)⟩
    · obtain ⟨p, operation, hfirst⟩ := PageAttribute.exists_firstUnusable h
      obtain rfl := Except.error.inj ((hunusable p operation hfirst).symm.trans herror)
      rcases hsort with ⟨_, h⟩ | ⟨_, h⟩
      · cases h
      · cases h

/-- The first group takes its sort specification back, so that of the second counts. And an offset
that is no number is the error although the page attribute has another, and before the limit. -/
theorem page_precedence_is_determined_over_groups :
    let e : Engine Memory.Predicate := { backend := Memory.Predicate.backend }
    let limit := fun n => Param.withCode "" "limit" (.integer n)
    let offset := fun s => Param.withCode "" "offset" (.text s)
    let sortBy := fun s => Param.withCode "" "sortBy" (.text s)
    let first : Group := ⟨[sortBy "name", limit 5, Param.bare "" "sortBy"], .and⟩
    let second : Group := ⟨[sortBy "-age", limit 7, offset " 3 "], .and⟩
    let wrong : Group := ⟨[sortBy "?", offset "x", limit (-1)], .and⟩
    let wanted : PageAttribute := { offset := some 1 }
    (e.planGrouped ["age"] ⟨[first, second], .and, wanted⟩).map (·.page) =
        .ok ⟨1, 5, [⟨"age", .descending⟩]⟩ ∧
      e.planGrouped ["age"] ⟨[first, wrong], .and, wanted⟩ =
        .error (.invalidPagingValue "offset" "x") := by
  intro e limit offset sortBy first second wrong wanted
  obtain ⟨f, hf⟩ : ∃ f, e.filterGroups [first, second] .and = .ok f := by
    unfold first second limit offset sortBy e
    exact ⟨_, rfl⟩
  obtain ⟨f', hf'⟩ : ∃ f, e.filterGroups [first, wrong] .and = .ok f := by
    unfold first wrong limit offset sortBy e
    exact ⟨_, rfl⟩
  obtain ⟨-, hplan, -⟩ :=
    page_precedence_is_determined e ["age"] (r := ⟨[first, second], .and, wanted⟩) hf
  obtain ⟨herror, -⟩ :=
    page_precedence_is_determined e ["age"] (r := ⟨[first, wrong], .and, wanted⟩) hf'
  constructor
  · have hsort : SortSpecification.resolve ["age"]
        (PageField.sortBy.wanted ⟨[first, second], .and, wanted⟩) =
          .ok [⟨"age", .descending⟩] := by decide
    have hpage : Page.wanted e.config ⟨[first, second], .and, wanted⟩ [⟨"age", .descending⟩] =
        ⟨1, 5, [⟨"age", .descending⟩]⟩ := by decide
    rw [hplan (by decide), hsort, ← hpage]
    rfl
  · exact herror (offset "x") .offset
      ⟨⟨first.params ++ [sortBy "?"], [limit (-1)], rfl, by decide⟩, by decide, by decide⟩

end FilterQuery
