import FilterQuery.Memory.Query
import FilterQuery.Proofs.Agreement.Acceptance
import FilterQuery.Proofs.Engine.Nesting
import FilterQuery.Proofs.Json.WellFormed
import FilterQuery.Proofs.Memory.Locality
import FilterQuery.Proofs.Memory.Pages
import Mathlib.Data.List.TakeWhile

/-!
# Null is missing

Filters and sort keys look at a row through its fields, and a field that is null looks like one that
is missing. So rows with the same fields are the same to a query, in the collection that a subquery
looks through as well as under the sort (`execute_sameFields`), and null members may come and go
(`sameFields_dropNulls`).

A field without a value fulfils next to nothing: what a parameter says of it is read off the
parameter's operation and value (`Param.AcceptsNull`), whatever else the row and the collection hold.
-/

namespace FilterQuery

/-! ### Rows with the same fields -/

/-- The row without some of its null members, chosen by name. -/
def Json.dropNulls (dropped : String → Bool) : Json → Json
  | .object members => .object (members.filter fun m => !(m.2.isNull && dropped m.1))
  | j => j

namespace Memory

/-- No field tells the rows apart. It may be null in one and missing in the other. -/
def SameFields (row row' : Json) : Prop :=
  ∀ field, field? row field = field? row' field

theorem field?_object (members : List (String × Json)) (field : String) :
    field? (.object members) field = (members.lookup field).filter fun value => !value.isNull :=
  rfl

/-- **Null members may come and go.** -/
theorem sameFields_dropNulls {row : Json} (hrow : row.WellFormed) (dropped : String → Bool) :
    SameFields row (row.dropNulls dropped) := by
  intro field
  cases row with
  | object members =>
    have hnames := (Json.wellFormed_object.mp hrow).1
    rw [Json.dropNulls, field?_object, field?_object]
    clear hrow
    induction members with
    | nil => rfl
    | cons m rest ih =>
      obtain ⟨name, value⟩ := m
      obtain ⟨hname, hrest⟩ := List.nodup_cons.mp hnames
      rw [List.lookup_cons, List.filter_cons]
      by_cases hdrop : value.isNull && dropped name
      · rw [if_neg (by simp [hdrop])]
        split
        · next heq =>
          -- no other member has the name, so the field is missing from the rest
          obtain rfl : field = name := eq_of_beq heq
          have hnull : value.isNull = true := (Bool.and_eq_true_iff.mp hdrop).1
          have hlookup : rest.lookup field = none := by
            rw [List.lookup_eq_none_iff]
            intro m hm
            rw [bne_iff_ne]
            rintro rfl
            exact hname (List.mem_map.mpr ⟨m, hm, rfl⟩)
          rw [← ih hrest, hlookup]
          simp [hnull]
        · exact ih hrest
      · rw [Bool.not_eq_true] at hdrop
        rw [if_pos (by simp [hdrop]), List.lookup_cons]
        split
        · rfl
        · exact ih hrest
  | _ => rfl

theorem forall₂_filter {rows rows' : List Json} (h : List.Forall₂ SameFields rows rows')
    {P Q : Json → Bool} (hPQ : ∀ row row', SameFields row row' → P row = Q row') :
    List.Forall₂ SameFields (rows.filter P) (rows'.filter Q) := by
  induction h with
  | nil => exact .nil
  | @cons row row' _ _ hrow _ ih =>
    rw [List.filter_cons, List.filter_cons, hPQ row row' hrow]
    split
    · exact .cons hrow ih
    · exact ih

theorem filterMap_field?_congr {rows rows' : List Json} (h : List.Forall₂ SameFields rows rows')
    (field : String) : rows.filterMap (field? · field) = rows'.filterMap (field? · field) := by
  induction h with
  | nil => rfl
  | cons hrow _ ih => rw [List.filterMap_cons, List.filterMap_cons, hrow field, ih]

mutual

/-- **Rows with the same fields fulfil the same filters**, in collections of such rows. -/
theorem holds_sameFields {rows rows' : List Json} (hrows : List.Forall₂ SameFields rows rows')
    {row row' : Json} (hrow : SameFields row row') :
    (p : Predicate) → p.holds rows row = p.holds rows' row'
  | .condition _ => fulfils_congr fun field _ => hrow field
  | .all ps => holdsAll_sameFields hrows hrow ps
  | .any ps => holdsAny_sameFields hrows hrow ps
  | .nested field operation subquery => by
    have hselected : List.Forall₂ SameFields (rows.filter fun c => subquery.holds rows c)
        (rows'.filter fun c => subquery.holds rows' c) :=
      forall₂_filter hrows fun c c' hc => holds_sameFields hrows hc subquery
    simp only [Predicate.holds, hrow field, filterMap_field?_congr hselected field]

theorem holdsAll_sameFields {rows rows' : List Json} (hrows : List.Forall₂ SameFields rows rows')
    {row row' : Json} (hrow : SameFields row row') :
    (ps : List Predicate) → Predicate.holdsAll rows row ps = Predicate.holdsAll rows' row' ps
  | [] => rfl
  | p :: ps => by
    rw [Predicate.holdsAll, Predicate.holdsAll, holds_sameFields hrows hrow p,
      holdsAll_sameFields hrows hrow ps]

theorem holdsAny_sameFields {rows rows' : List Json} (hrows : List.Forall₂ SameFields rows rows')
    {row row' : Json} (hrow : SameFields row row') :
    (ps : List Predicate) → Predicate.holdsAny rows row ps = Predicate.holdsAny rows' row' ps
  | [] => rfl
  | p :: ps => by
    rw [Predicate.holdsAny, Predicate.holdsAny, holds_sameFields hrows hrow p,
      holdsAny_sameFields hrows hrow ps]

end

/-! ### Sorting -/

/-- To a sort key, too, null is missing. -/
theorem SortRank.of_member? (row : Json) (field : String) :
    SortRank.of (row.member? field) = SortRank.of (field? row field) := by
  unfold field?
  cases row.member? field with
  | none => rfl
  | some value => cases value <;> rfl

theorem compareBy_sameFields {a a' b b' : Json} (ha : SameFields a a') (hb : SameFields b b')
    (key : SortKey) : compareBy key a b = compareBy key a' b' := by
  unfold compareBy
  rw [SortRank.of_member?, SortRank.of_member?, SortRank.of_member?, SortRank.of_member?,
    ha key.field, hb key.field]

theorem precedes_sameFields {a a' b b' : Json} (ha : SameFields a a') (hb : SameFields b b')
    {keys : List SortKey} (h : Precedes keys a b) : Precedes keys a' b' := by
  obtain ⟨before, key, after, hkeys, hbefore, hkey⟩ := h
  refine ⟨before, key, after, hkeys, ?_, ?_⟩
  · intro k hk
    rw [← compareBy_sameFields ha hb]
    exact hbefore k hk
  · rw [← compareBy_sameFields ha hb]
    exact hkey

theorem exists_sameFields {rows rows' : List Json} (h : List.Forall₂ SameFields rows rows')
    {i : Nat} {row : Json} (hrow : rows[i]? = some row) :
    ∃ row', rows'[i]? = some row' ∧ SameFields row row' := by
  induction h generalizing i with
  | nil => cases hrow
  | @cons head head' _ _ hhead _ ih =>
    cases i with
    | zero =>
      obtain rfl : head = row := Option.some.inj hrow
      exact ⟨head', rfl, hhead⟩
    | succ i => exact ih hrow

theorem SameFields.symm {row row' : Json} (h : SameFields row row') : SameFields row' row :=
  fun field => (h field).symm

/-- An order of the rows is one of rows with the same fields. -/
theorem StablySorted.sameFields {rows rows' : List Json}
    (hrows : List.Forall₂ SameFields rows rows') {p : Predicate} {keys : List SortKey}
    {order : List Nat} (h : StablySorted rows' p keys order) : StablySorted rows p keys order where
  nodup := h.nodup
  mem_iff i := by
    have hrows' : List.Forall₂ SameFields rows' rows := hrows.flip.imp fun _ _ => SameFields.symm
    rw [h.mem_iff]
    constructor
    · rintro ⟨row', hrow', hholds⟩
      obtain ⟨row, hrow, hsame⟩ := exists_sameFields hrows' hrow'
      exact ⟨row, hrow, holds_sameFields hrows' hsame p ▸ hholds⟩
    · rintro ⟨row, hrow, hholds⟩
      obtain ⟨row', hrow', hsame⟩ := exists_sameFields hrows hrow
      exact ⟨row', hrow', holds_sameFields hrows hsame p ▸ hholds⟩
  sorted := by
    refine h.sorted.imp ?_
    intro i j hij a b ha hb hba
    obtain ⟨a', ha', hsame⟩ := exists_sameFields hrows ha
    obtain ⟨b', hb', hsame'⟩ := exists_sameFields hrows hb
    exact hij a' b' ha' hb' (precedes_sameFields hsame' hsame hba)
  stable := by
    refine h.stable.imp ?_
    intro i j hij a b ha hb hkeys
    obtain ⟨a', ha', hsame⟩ := exists_sameFields hrows ha
    obtain ⟨b', hb', hsame'⟩ := exists_sameFields hrows hb
    refine hij a' b' ha' hb' ?_
    intro key hkey
    rw [← compareBy_sameFields hsame hsame']
    exact hkeys key hkey

/-- **Rows with the same fields answer a query alike.** -/
theorem execute_sameFields {rows rows' : List Json} (hrows : List.Forall₂ SameFields rows rows')
    (p : Predicate) (page : Page) : execute rows p page = execute rows' p page := by
  have hpositions : positions rows p page.orders = positions rows' p page.orders :=
    (stablySorted_positions rows p page.orders).eq
      ((stablySorted_positions rows' p page.orders).sameFields hrows)
  obtain ⟨offset, limit, keys⟩ := page
  rw [execute_eq, execute_eq, hpositions]

end Memory

/-! ### What holds of a field without a value -/

/-- Whether an operation holds of a field without a value: the test for null does, and so does what
asks for nothing, as an ordering comparison without a value, and `contains` without a token. -/
def SearchOperation.AcceptsNull (operation : SearchOperation) (value : Option ParamValue) : Prop :=
  match operation with
  | .isNull => True
  | .compare c => value = none ∧ c ≠ .equal ∧ c ≠ .notEqual
  | .contains =>
    ∀ v ∈ value, ∀ token ∈ v.raw.toList.splitOn ',', ∀ c ∈ token, Text.isBlank c = true
  | .like | .member _ => False

/-- Whether a parameter holds of a field without a value. Of the nested operations, only the test
for null does. -/
def Param.AcceptsNull (config : Config) (p : Param) : Prop :=
  match config.stripMarker? p.code with
  | some code => NestedOperation.ofCode code = .ok .isNull
  | none => ∃ operation, Operation.ofCode? p.code = some (.search operation) ∧
      operation.AcceptsNull p.value

theorem Param.acceptsNull_of_nested {config : Config} {p : Param} {code : String}
    (hcode : config.stripMarker? p.code = some code) :
    p.AcceptsNull config ↔ NestedOperation.ofCode code = .ok .isNull := by
  unfold Param.AcceptsNull
  rw [hcode]

theorem Param.acceptsNull_of_flat {config : Config} {p : Param} {operation : SearchOperation}
    (hcode : config.stripMarker? p.code = none)
    (hoperation : Operation.ofCode? p.code = some (.search operation)) :
    p.AcceptsNull config ↔ operation.AcceptsNull p.value := by
  unfold Param.AcceptsNull
  rw [hcode]
  constructor
  · rintro ⟨other, hother, haccepts⟩
    cases hoperation.symm.trans hother
    exact haccepts
  · exact fun haccepts => ⟨operation, hoperation, haccepts⟩

theorem Text.trim_eq_nil {cs : List Char} : trim cs = [] ↔ ∀ c ∈ cs, isBlank c = true := by
  rw [trim, List.reverse_eq_nil_iff, List.dropWhile_eq_nil_iff]
  constructor
  · intro h c hc
    rw [← List.takeWhile_append_dropWhile (p := isBlank) (l := cs), List.mem_append] at hc
    rcases hc with hc | hc
    · exact List.mem_takeWhile_imp hc
    · exact h c (List.mem_reverse.mpr hc)
  · intro h c hc
    have hnil : cs.dropWhile isBlank = [] := List.dropWhile_eq_nil_iff.mpr h
    rw [hnil] at hc
    cases hc

theorem Condition.containsTokens_eq_nil {raw : String} :
    containsTokens raw = [] ↔
      ∀ token ∈ raw.toList.splitOn ',', ∀ c ∈ token, Text.isBlank c = true := by
  rw [containsTokens, List.map_eq_nil_iff, List.filter_eq_nil_iff, List.forall_mem_map]
  refine forall₂_congr fun token _ => ?_
  rw [decide_eq_true_iff, not_not, Text.trim_eq_nil]

namespace Memory

open Engine (planParam_of_nested search_of_planParam_flat planNested_eq_ok planGroup_eq
  planParams_eq_ok)

/-- What the condition of a parameter comes to on a row without a value in the field. -/
theorem fulfils_of_null {operation : SearchOperation} {p : Param} {c : Condition}
    (hc : Condition.ofParam operation p = .ok c) {row : Json} (hrow : field? row p.name = none) :
    fulfils row c = true ↔ operation.AcceptsNull p.value := by
  cases Condition.ofParam_eq_ok.mp hc with
  | everything hnone hequal hnotEqual => exact iff_of_true rfl ⟨hnone, hequal, hnotEqual⟩
  | compare hvalue _ =>
    refine iff_of_false (by simp [fulfils, hrow]) ?_
    simp [SearchOperation.AcceptsNull, hvalue]
  | like _ | nothing _ | member _ => exact iff_of_false (by simp [fulfils, hrow]) not_false
  | isNull => exact iff_of_true (by simp [fulfils, hrow]) trivial
  | @contains value hvalue =>
    have htokens : fulfils row (.contains p.name (Condition.containsTokens value.raw)) = true ↔
        Condition.containsTokens value.raw = [] := by
      simp [fulfils, hrow]
    rw [htokens, Condition.containsTokens_eq_nil, SearchOperation.AcceptsNull, hvalue]
    simp

/-- **On a row without a value in its field a parameter holds or not by what it asks alone.** -/
theorem holds_of_null {config : Config}
    {plan : Option (Group → Except FilterError Predicate)} {p : Param} {f : Predicate}
    (h : (Engine.plain Predicate.backend config).planParam plan p = .ok (some f))
    (rows : List Json) {row : Json} (hrow : field? row p.name = none) :
    f.holds rows row = true ↔ p.AcceptsNull config := by
  have hpaging := (mem_fields_planParam h).1
  have hoverride : (Engine.plain Predicate.backend config).overrides.get? p.name = none := rfl
  cases hcode : config.stripMarker? p.code with
  | some code =>
    rw [planParam_of_nested hpaging hoverride hcode] at h
    obtain ⟨_, hnested, hf⟩ := map_eq_ok.mp h
    obtain ⟨operation, inner, group, subquery, hoperation, -, -, -, hbuilt⟩ :=
      planNested_eq_ok.mp hnested
    cases hf
    cases hbuilt
    rw [Param.acceptsNull_of_nested hcode, hoperation, Except.ok.injEq]
    cases operation <;> simp [Predicate.holds, hrow]
  | none =>
    obtain ⟨operation, hoperation, hsearch⟩ :=
      search_of_planParam_flat hpaging hoverride hcode h
    obtain ⟨c, hc, hf⟩ := bind_eq_ok.mp hsearch
    obtain rfl := ofCondition_eq_ok hf
    rw [Param.acceptsNull_of_flat hcode hoperation]
    exact fulfils_of_null hc hrow

/-- What is built from a list of one parameter. -/
theorem exists_planParam_of_filterParams {config : Config} {p : Param} {f : Predicate}
    (hpaging : p.paging? = none)
    (h : (Engine.plain Predicate.backend config).filterParams [p] .and = .ok f) :
    ∃ plan, (Engine.plain Predicate.backend config).planParam plan p = .ok (some f) := by
  rw [Engine.filterParams, Engine.filterGroup, planGroup_eq] at h
  obtain ⟨fs, hfs, hcombine⟩ := planParams_eq_ok.mp h
  obtain ⟨x, xs, hx, hxs, rfl⟩ := mapM_cons_eq_ok.mp hfs
  cases hxs
  cases x with
  | none => exact absurd hpaging (Engine.planParam_eq_none.mp hx)
  | some m =>
    cases hcombine
    exact ⟨_, hx⟩

/-- **Null is missing.** Where rows lose null members, a query answers as before, with the same
positions in the same order. And each parameter that planning comes upon holds of a field that is
null or missing if it is a test for null or asks for nothing, and else it does not. -/
theorem null_is_missing {config : Config} {r : Request} {m : Predicate}
    (h : (Engine.plain Predicate.backend config).filter r = .ok m) :
    (∀ rows rows' page, (∀ row ∈ rows, row.WellFormed) →
        List.Forall₂ (fun row row' => ∃ dropped, row' = row.dropNulls dropped) rows rows' →
        execute rows m page = execute rows' m page) ∧
      ∀ p ∈ r.params, ∀ q, (Engine.plain Predicate.backend config).Reaches p q →
        q.paging? = none →
        ∃ f, (Engine.plain Predicate.backend config).filterParams [q] .and = .ok f ∧
          ∀ rows row, field? row q.name = none →
            (f.holds rows row = true ↔ q.AcceptsNull config) := by
  constructor
  · intro rows rows' page hwell hdropped
    apply execute_sameFields
    induction hdropped with
    | nil => exact .nil
    | cons hrow _ ih =>
      obtain ⟨dropped, rfl⟩ := hrow
      obtain ⟨hhead, htail⟩ := List.forall_mem_cons.mp hwell
      exact .cons (sameFields_dropNulls hhead dropped) (ih htail)
  · intro p hp q hq hpaging
    obtain ⟨f, hf⟩ := Engine.exists_filterParams_of_reaches hq (exists_filterParams h hp)
    obtain ⟨plan, hplan⟩ := exists_planParam_of_filterParams hpaging hf
    exact ⟨f, hf, fun rows row hrow => holds_of_null hplan rows hrow⟩

/-- A row that loses the null under a sort key and a subquery. -/
theorem null_is_missing_under_subquery :
    let others := Param.withCode "boss" "nst:notIn"
      (.group ⟨[.withCode "id" "gt" (.integer 1)], .and⟩)
    let r : Request := .flat ⟨[.bare "pay" "lt", others], .and, none⟩
    let page : Page := ⟨0, 2, [⟨"boss", .descending⟩]⟩
    let one : Json := .object [("id", .integer 1), ("boss", .null)]
    let two : Json := .object [("id", .integer 2), ("boss", .integer 3)]
    let less : Json := .object [("id", .integer 1)]
    ∃ m f, (Engine.plain Predicate.backend {}).filter r = .ok m ∧
      execute [one, two] m page = execute [less, two] m page ∧
      (Engine.plain Predicate.backend {}).filterParams [others] .and = .ok f ∧
      f.holds [one, two] one = false ∧ f.holds [one, two] less = false := by
  intro others r page one two less
  let m : Predicate := .all [.condition .everything,
    .nested "boss" (.member true) (.condition (.compare "id" .greater (.long 1)))]
  have hm : (Engine.plain Predicate.backend {}).filter r = .ok m := by
    unfold r others m
    rfl
  obtain ⟨hexecute, hparams⟩ := null_is_missing hm
  have hwell : ∀ row ∈ [one, two], row.WellFormed := by
    simp [one, two, Json.keepsInteger, Numeral.countMax]
  have hdropped : List.Forall₂ (fun row row' : Json => ∃ dropped, row' = row.dropNulls dropped)
      [one, two] [less, two] :=
    .cons ⟨(· == "boss"), rfl⟩ (.cons ⟨(· == "boss"), rfl⟩ .nil)
  obtain ⟨f, hf, hnull⟩ := hparams others (by simp [r, Request.params, Request.toGrouped]) others
    .refl (by unfold others; rfl)
  have haccepts : ¬ others.AcceptsNull {} := by
    have hcode : Config.stripMarker? {} others.code = some "notIn" := by
      unfold others
      rfl
    rw [Param.acceptsNull_of_nested hcode]
    intro hisNull
    cases hisNull
  refine ⟨m, f, hm, hexecute _ _ page hwell hdropped, hf, ?_, ?_⟩
  · exact Bool.eq_false_iff.mpr fun hholds => haccepts ((hnull _ one rfl).mp hholds)
  · exact Bool.eq_false_iff.mpr fun hholds => haccepts ((hnull _ less rfl).mp hholds)

end Memory

end FilterQuery
