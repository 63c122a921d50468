import FilterQuery.Memory.Predicate
import FilterQuery.Proofs.Engine.Simulation
import FilterQuery.Proofs.Request.Typing
import FilterQuery.Proofs.Sql.Evaluation

/-!
# Memory and SQL agree on flat requests

In memory a test of a missing field fails; in SQL it is `UNKNOWN`. No filter of a flat request has a
`NOT` above a test, and `AND` and `OR` are monotone, so `UNKNOWN` never becomes `TRUE` and both
backends select the same rows. A negated list is the one place with a `NOT` inside: there the test
of a null list member cannot occur, because request values are never null.

The columns have types here, and every value of the request the type of its column: a text beside
a long compares in memory by reading the text, and in SQL not at all.
-/

namespace FilterQuery

/-! ### Typed rows -/

inductive ColumnType where
  | long | boolean | text
deriving DecidableEq, Repr

def ColumnType.scalar : ColumnType → ScalarType
  | .long => .long
  | .boolean => .boolean
  | .text => .string

/-- A stored value is of the type of a column. -/
inductive ColumnType.Stores : ColumnType → Json → Prop
  | long {i : Int} : Numeral.isLong i → Stores .long (.integer i)
  | boolean (b : Bool) : Stores .boolean (.bool b)
  | text (s : String) : Stores .text (.string s)

/-- What a row holds in each column is of the type of the column, if it holds anything. -/
def RowTyped (columns : String → ColumnType) (row : Json) : Prop :=
  ∀ field value, Memory.field? row field = some value → (columns field).Stores value

theorem rowTyped_object {columns : String → ColumnType} {members : List (String × Json)}
    (h : ∀ m ∈ members, m.2 = .null ∨ (columns m.1).Stores m.2) :
    RowTyped columns (.object members) := by
  intro field value hvalue
  have hlookup : members.lookup field = some value ∧ value.isNull = false := by
    simpa [Memory.field?, Json.member?, Option.filter_eq_some_iff] using hvalue
  obtain ⟨before, after, hmembers, -⟩ := List.lookup_eq_some_iff.mp hlookup.1
  rcases h (field, value) (by simp [hmembers]) with hnull | hstores
  · obtain rfl : value = .null := hnull
    cases hlookup.2
  · exact hstores

namespace Sql

def Value.ofJson : Json → Value
  | .bool b => .boolean b
  | .integer i => .integer i
  | .float x => .float x
  | .string s => .string s
  | _ => .null

/-- A row of a collection in SQL. What is missing is null. -/
def Row.ofJson (row : Json) : Row :=
  fun field => (Memory.field? row field).elim .null Value.ofJson

theorem Row.ofJson_of_missing {row : Json} {field : String}
    (h : Memory.field? row field = none) : Row.ofJson row field = .null := by
  rw [Row.ofJson, h]
  rfl

theorem Row.ofJson_of_stored {row value : Json} {field : String}
    (h : Memory.field? row field = some value) : Row.ofJson row field = .ofJson value := by
  rw [Row.ofJson, h]
  rfl

end Sql

open Sql (Row Database)

namespace ColumnType.Stores

theorem ofJson_ne_null {t : ColumnType} {value : Json} (h : t.Stores value) :
    Sql.Value.ofJson value ≠ .null := by
  cases h <;> simp [Sql.Value.ofJson]

/-- In one type both backends know the order of a stored value and a scalar, and it is the same. -/
theorem exists_order {t : ColumnType} {value : Json} (h : t.Stores value) {s : Scalar}
    (hs : s.type = t.scalar) :
    ∃ o, Memory.compareField value s = some o ∧
      (Sql.Value.ofJson value).compare? (.ofScalar s) = some o := by
  cases h with
  | @long i hi =>
    cases s with
    | long j =>
      have hread : Memory.fieldAs (.integer i) .long = some (.long i) := by
        simp [Memory.fieldAs, hi]
      refine ⟨compare i j, ?_, rfl⟩
      show (Memory.fieldAs (.integer i) .long).bind _ = _
      rw [hread]
      rfl
    | _ => cases hs
  | boolean b =>
    cases s with
    | boolean c => exact ⟨compare b c, rfl, rfl⟩
    | _ => cases hs
  | text u =>
    cases s with
    | string v => exact ⟨compare u v, rfl, rfl⟩
    | _ => cases hs

theorem test_ofJson {t : ColumnType} {value : Json} (h : t.Stores value) (c : Comparison)
    {s : Scalar} (hs : s.type = t.scalar) :
    (Sql.Value.ofJson value).test c (.ofScalar s) =
      .ofBool ((Memory.compareField value s).any c.accepts) := by
  obtain ⟨o, hmemory, hsql⟩ := h.exists_order hs
  rw [Sql.Value.test, hsql, hmemory]
  rfl

end ColumnType.Stores

/-! ### Conditions -/

/-- Every value in a condition is of the type of its column. Patterns and tokens have no column
type that they are of. -/
def Condition.Fits (columns : String → ColumnType) : Condition → Prop
  | .everything | .nothing | .isNull _ => True
  | .compare field _ value => value.type = (columns field).scalar
  | .member field _ values => values ≠ [] ∧ ∀ v ∈ values, v.type = (columns field).scalar
  | .like .. | .contains .. => False

/-- **One condition on one row**: it holds in memory if and only if it is `TRUE` in SQL. -/
theorem fulfils_iff_eval {columns : String → ColumnType} {row : Json} (hrow : RowTyped columns row)
    (db : Database) {c : Condition} (hc : c.Fits columns) :
    Memory.fulfils row c = true ↔
      (Sql.Predicate.ofCondition c).eval db (Row.ofJson row) = .true := by
  cases c with
  | everything => exact iff_of_true rfl rfl
  | nothing =>
    show false = true ↔ Sql.Truth.false = .true
    simp
  | compare field c value =>
    show ((Memory.field? row field).bind _).any _ = true ↔ (Row.ofJson row field).test _ _ = .true
    cases hfield : Memory.field? row field with
    | none =>
      -- in memory a missing field fails the test, in SQL the test is `UNKNOWN`
      rw [Row.ofJson_of_missing hfield, Sql.Value.test_null]
      simp
    | some stored =>
      rw [Row.ofJson_of_stored hfield, (hrow field stored hfield).test_ofJson c hc]
      simp
  | member field negated values =>
    obtain ⟨hne, htypes⟩ := hc
    have hsome : values.map Sql.Value.ofScalar ≠ [] := by simpa using hne
    have heval : (Sql.Predicate.ofCondition (.member field negated values)).eval db
        (Row.ofJson row) =
          ((Row.ofJson row field).among (values.map Sql.Value.ofScalar)).negate negated := by
      rw [Sql.Predicate.ofCondition, Sql.Predicate.eval, if_neg hsome]
    rw [heval, Memory.fulfils]
    cases hfield : Memory.field? row field with
    | none =>
      -- `UNKNOWN` stays `UNKNOWN` under the `NOT`
      rw [Row.ofJson_of_missing hfield, Sql.Value.among_null hsome]
      simp
    | some stored =>
      have htests : ∀ v ∈ values, (Sql.Value.ofJson stored).test .equal (.ofScalar v) =
          .ofBool (Memory.compareField stored v == some .eq) := by
        intro v hv
        rw [(hrow field stored hfield).test_ofJson .equal (htypes v hv)]
        cases Memory.compareField stored v <;> simp [Comparison.accepts]
      have hamong : (Sql.Value.ofJson stored).among (values.map .ofScalar) =
          .ofBool (values.any fun v => Memory.compareField stored v == some .eq) := by
        rw [Sql.Value.among, List.map_map, ← Sql.Truth.any_map_ofBool]
        exact congrArg _ (List.map_congr_left htests)
      rw [Row.ofJson_of_stored hfield, hamong, Sql.Truth.negate_ofBool]
      simp
  | isNull field =>
    show (Memory.field? row field).isNone = true ↔
      Sql.Truth.ofBool (Row.ofJson row field = .null) = .true
    cases hfield : Memory.field? row field with
    | none =>
      rw [Row.ofJson_of_missing hfield]
      simp
    | some stored =>
      have hstored := (hrow field stored hfield).ofJson_ne_null
      rw [Row.ofJson_of_stored hfield]
      simp [hstored]
  | like => exact hc.elim
  | contains => exact hc.elim

/-! ### Requests -/

/-- The elements of a value that is read as a list. -/
def ParamValue.elements : ParamValue → List ParamValue
  | .text s => if Text.isAllBlank s then [] else listElements s
  | v => [v]

/-- A parameter of a flat request whose value is of the type of its column. A list takes its type
from its first element. -/
inductive FlatParam (config : Config) (columns : String → ColumnType) (p : Param) : Prop
  | paging : p.paging?.isSome → FlatParam config columns p
  | compare (c : Comparison) : config.stripMarker? p.code = none →
    Operation.ofCode? p.code = some (.search (.compare c)) →
    (∀ v ∈ p.value, ScalarType.infer? v = some (columns p.name).scalar) →
    FlatParam config columns p
  | member (negated : Bool) : config.stripMarker? p.code = none →
    Operation.ofCode? p.code = some (.search (.member negated)) →
    (∀ v ∈ p.value, ∀ first ∈ v.elements.head?,
      ScalarType.infer? first = some (columns p.name).scalar) →
    FlatParam config columns p
  | isNull : config.stripMarker? p.code = none →
    Operation.ofCode? p.code = some (.search .isNull) → FlatParam config columns p

/-- The scalars that a value lists are of the type that is inferred for its first element. -/
theorem ParamValue.type_of_mem_toScalars {v : Option ParamValue} {t : ScalarType}
    (ht : ∀ w ∈ v, ∀ first ∈ w.elements.head?, ScalarType.infer? first = some t)
    {xs : List Scalar} (h : ParamValue.toScalars v = .ok xs) : ∀ x ∈ xs, x.type = t := by
  cases v with
  | none =>
    obtain rfl : [] = xs := Except.ok.inj h
    simp
  | some w =>
    have hw := ht w rfl
    by_cases htext : ∃ s, w = .text s
    · obtain ⟨s, rfl⟩ := htext
      rw [ParamValue.toScalars] at h
      rw [ParamValue.elements] at hw
      split at h
      · obtain rfl : [] = xs := Except.ok.inj h
        simp
      · next hblank =>
        rw [if_neg hblank] at hw
        split at h
        · obtain rfl : [] = xs := Except.ok.inj h
          simp
        · next first rest helements =>
          rw [helements] at hw
          obtain ⟨u, hu, h⟩ := bind_eq_ok.mp h
          obtain rfl : t = u := by
            rw [ScalarType.infer, hw first rfl] at hu
            exact Except.ok.inj hu
          intro x hx
          obtain ⟨_, -, hcast⟩ := (mem_mapM h).mp hx
          exact ScalarType.type_of_cast hcast
    · have hself : w.elements = [w] := by
        cases w <;> first | rfl | exact absurd ⟨_, rfl⟩ htext
      have hlist : ParamValue.toScalars (some w) = w.toScalar.bind fun x => .ok [x] := by
        cases w <;> first | rfl | exact absurd ⟨_, rfl⟩ htext
      rw [hself] at hw
      obtain ⟨x, hx, h⟩ := bind_eq_ok.mp (hlist.symm.trans h)
      obtain rfl := Except.ok.inj h
      simpa using ParamValue.type_of_toScalar (hw w rfl) hx

theorem fits_of_compare {columns : String → ColumnType} {p : Param} {c : Comparison}
    (hvalue : ∀ v ∈ p.value, ScalarType.infer? v = some (columns p.name).scalar)
    {condition : Condition} (h : Condition.ofParam (.compare c) p = .ok condition) :
    condition.Fits columns := by
  cases Condition.ofParam_eq_ok.mp h with
  | everything => trivial
  | @compare _ v _ hv hx => exact ParamValue.type_of_toScalar (hvalue v hv) hx

theorem fits_of_member {columns : String → ColumnType} {p : Param} {negated : Bool}
    (hvalue : ∀ v ∈ p.value, ∀ first ∈ v.elements.head?,
      ScalarType.infer? first = some (columns p.name).scalar)
    {condition : Condition} (h : Condition.ofParam (.member negated) p = .ok condition) :
    condition.Fits columns := by
  cases Condition.ofParam_eq_ok.mp h with
  | nothing => trivial
  | member hxs => exact ⟨by simp, ParamValue.type_of_mem_toScalars hvalue hxs⟩

theorem FlatParam.fits {config : Config} {columns : String → ColumnType} {p : Param}
    (h : FlatParam config columns p) {operation : SearchOperation}
    (hoperation : Operation.ofCode? p.code = some (.search operation)) {c : Condition}
    (hc : Condition.ofParam operation p = .ok c) : c.Fits columns := by
  cases h with
  | paging hpaging =>
    -- a paging code does not search
    rw [Param.paging?, Operation.pagingOfCode?, hoperation] at hpaging
    cases hpaging
  | compare c' _ hcode hvalue =>
    obtain rfl : SearchOperation.compare c' = operation := by simpa [hcode] using hoperation
    exact fits_of_compare hvalue hc
  | member negated _ hcode hvalue =>
    obtain rfl : SearchOperation.member negated = operation := by simpa [hcode] using hoperation
    exact fits_of_member hvalue hc
  | isNull _ hcode =>
    obtain rfl : SearchOperation.isNull = operation := by simpa [hcode] using hoperation
    obtain rfl := Except.ok.inj hc
    trivial

/-! ### Filters -/

/-- A filter in memory and a predicate select the same rows of a collection. -/
def SelectSame (rows : List Json) (db : Database) (m : Memory.Predicate) (s : Sql.Predicate) :
    Prop :=
  ∀ row ∈ rows, m.holds rows row = true ↔ s.eval db (Row.ofJson row) = .true

theorem selectSame_all {rows : List Json} {db : Database} {ms : List Memory.Predicate}
    {ss : List Sql.Predicate} (h : List.Forall₂ (SelectSame rows db) ms ss) :
    SelectSame rows db (.all ms) (.all ss) := by
  intro row hrow
  show Memory.Predicate.holdsAll rows row ms = true ↔
    Sql.Predicate.evalAll db (Row.ofJson row) ss = .true
  induction h with
  | nil => exact iff_of_true rfl rfl
  | cons hhead _ ih =>
    rw [Memory.Predicate.holdsAll, Bool.and_eq_true, hhead row hrow, ih, Sql.Predicate.evalAll,
      Sql.Truth.and_eq_true]

theorem selectSame_any {rows : List Json} {db : Database} {ms : List Memory.Predicate}
    {ss : List Sql.Predicate} (h : List.Forall₂ (SelectSame rows db) ms ss) :
    SelectSame rows db (.any ms) (.any ss) := by
  intro row hrow
  show Memory.Predicate.holdsAny rows row ms = true ↔
    Sql.Predicate.evalAny db (Row.ofJson row) ss = .true
  induction h with
  | nil =>
    show false = true ↔ Sql.Truth.false = .true
    simp
  | cons hhead _ ih =>
    rw [Memory.Predicate.holdsAny, Bool.or_eq_true, hhead row hrow, ih, Sql.Predicate.evalAny,
      Sql.Truth.or_eq_true]

theorem selectSame_condition {columns : String → ColumnType} {rows : List Json}
    (hrows : ∀ row ∈ rows, RowTyped columns row) (db : Database) {c : Condition}
    (hc : c.Fits columns) :
    SelectSame rows db (.condition c) (Sql.Predicate.ofCondition c) :=
  fun row hrow => fulfils_iff_eval (hrows row hrow) db hc

/-- Only a pattern can be refused in memory. -/
theorem Memory.Predicate.ofCondition_of_fits {columns : String → ColumnType} {c : Condition}
    (hc : c.Fits columns) : Memory.Predicate.ofCondition c = .ok (.condition c) := by
  cases c <;> first | rfl | exact hc.elim

theorem FlatParam.not_nested {config : Config} {columns : String → ColumnType} {p : Param}
    (h : FlatParam config columns p) (hpaging : p.paging? = none) :
    config.stripMarker? p.code = none := by
  cases h with
  | paging h =>
    rw [hpaging] at h
    cases h
  | compare _ h => exact h
  | member _ h => exact h
  | isNull h => exact h

theorem simulation_flat {columns : String → ColumnType} {rows : List Json}
    (hrows : ∀ row ∈ rows, RowTyped columns row) (config : Config) (table : String)
    (db : Database) :
    Simulation Memory.Predicate.backend (Sql.Predicate.backend table) config (SelectSame rows db)
      (FlatParam config columns) where
  everything := selectSame_condition hrows db (c := .everything) trivial
  conjunction := selectSame_all
  disjunction := selectSame_any
  search := by
    intro p operation hp _ hoperation
    apply Alike.bind_same fun _ => rfl
    intro c hc
    have hfits := hp.fits hoperation hc
    -- both backends get one condition; memory could refuse a pattern, but there is none
    show Alike _ _ (Memory.Predicate.ofCondition c) (.ok (Sql.Predicate.ofCondition c))
    rw [Memory.Predicate.ofCondition_of_fits hfits]
    exact .ok (selectSame_condition hrows db hfits)
  nested := by
    intro p code operation f g hp hpaging hcode
    rw [hp.not_nested hpaging] at hcode
    cases hcode
  inner := by
    intro p code operation group hp hpaging hcode
    rw [hp.not_nested hpaging] at hcode
    cases hcode

/-- **Flat requests select the same rows.** Whatever the groups and glues, the filter in memory
holds on a row if and only if the predicate is `TRUE` on it in SQL. -/
theorem memory_agrees_with_sql {columns : String → ColumnType} {rows : List Json}
    (hrows : ∀ row ∈ rows, RowTyped columns row) (config : Config) (table : String)
    {groups : List Group} (hgroups : ∀ g ∈ groups, ∀ p ∈ g.params, FlatParam config columns p)
    (glue : Glue) {m : Memory.Predicate} {s : Sql.Predicate}
    (hm : (Engine.plain Memory.Predicate.backend config).filterGroups groups glue = .ok m)
    (hs : (Engine.plain (Sql.Predicate.backend table) config).filterGroups groups glue = .ok s)
    (db : Database) :
    ∀ row ∈ rows, m.holds rows row = true ↔ s.eval db (Row.ofJson row) = .true := by
  have halike := (simulation_flat hrows config table db).alike_filterGroups hgroups glue
  exact halike.of_eq_ok hm hs

theorem memory_agrees_with_sql_beside_null :
    let rows : List Json := [.object [("a", .integer 1)], .object [("a", .null)]]
    let m : Memory.Predicate := .condition (.compare "a" .notEqual (.long 2))
    let s : Sql.Predicate := .compare "a" .notEqual (.integer 2)
    ∀ row ∈ rows, m.holds rows row = true ↔ s.eval (fun _ => []) (Row.ofJson row) = .true := by
  intro rows m s
  have hrows : ∀ row ∈ rows, RowTyped (fun _ => .long) row := by
    intro row hrow
    rcases List.mem_pair.mp hrow with rfl | rfl <;> apply rowTyped_object <;> simp
    exact .long (by decide)
  have hgroups : ∀ g ∈ [Group.mk [.withCode "a" "notEq" (.integer 2)] .and], ∀ p ∈ g.params,
      FlatParam {} (fun _ => .long) p := by
    intro g hg p hp
    obtain rfl := List.mem_singleton.mp hg
    obtain rfl := List.mem_singleton.mp hp
    refine .compare .notEqual rfl rfl ?_
    rintro v ⟨⟩
    rfl
  exact memory_agrees_with_sql hrows {} "rows" hgroups .and rfl rfl _

end FilterQuery
