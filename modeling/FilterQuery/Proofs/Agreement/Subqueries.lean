import FilterQuery.Proofs.Agreement.Flat

/-!
# Memory and SQL on subqueries

A subquery selects one column of the rows that fulfil its filter. SQL keeps the nulls of the column;
in memory they are dropped. For `IN` this makes no difference, since a null equals nothing. For
`NOT IN` it does: `x NOT IN (…, NULL)` is never `TRUE`, and in memory it holds if no other value is
`x`. The reverse happens to a null beside an empty selection, where `NOT IN` is `TRUE` and in memory
nothing holds of a missing field.

These two cases (`Clash`) are the whole difference: a single `NOT IN` differs on the rows that clash
and on no others (`nested_agrees_iff`). What memory answers to a whole request is what SQL would
answer if each `NOT IN` left the nulls out (`Predicate.excludingNulls`).
-/

namespace FilterQuery

open Sql (Row Database)

/-! ### What a subquery selects -/

namespace Sql

/-- The values that a subquery selects: a column of the rows on which its filter is `TRUE`. -/
def Predicate.selected (db : Database) (table field : String) (filter : Predicate) : List Value :=
  ((db table).filter fun r => filter.eval db r = .true).map (· field)

theorem Predicate.eval_subquery_member (db : Database) (row : Row) (field table : String)
    (negated : Bool) (filter : Predicate) :
    (Predicate.subquery field (.member negated) table filter).eval db row =
      ((row field).among (filter.selected db table field)).negate negated := rfl

/-- A value beside selected values on which `NOT IN` differs between SQL and memory: a null beside
nothing, or a value beside a null and not beside itself. -/
def Clash (v : Value) (selected : List Value) : Prop :=
  if v = .null then selected = [] else .null ∈ selected ∧ v ∉ selected

mutual

/-- No `NOT IN` in a predicate clashes on a row of a list. -/
def Predicate.ClashFree (db : Database) (rows : List Row) : Predicate → Prop
  | .all ps => Predicate.ClashFreeAll db rows ps
  | .any ps => Predicate.ClashFreeAll db rows ps
  | .subquery field operation table filter =>
    filter.ClashFree db rows ∧
      (operation = .member true →
        ∀ r ∈ rows, ¬ Clash (r field) (filter.selected db table field))
  | _ => True

def Predicate.ClashFreeAll (db : Database) (rows : List Row) : List Predicate → Prop
  | [] => True
  | p :: ps => p.ClashFree db rows ∧ Predicate.ClashFreeAll db rows ps

end

/-- The test that a column of longs is not null: any long is zero or is not. -/
def known (field : String) : Predicate :=
  .any [.compare field .equal (.integer 0), .compare field .notEqual (.integer 0)]

mutual

/-- A predicate in which each `NOT IN` leaves out the nulls on both of its sides. -/
def Predicate.excludingNulls : Predicate → Predicate
  | .all ps => .all (Predicate.excludingNullsAll ps)
  | .any ps => .any (Predicate.excludingNullsAll ps)
  | .subquery field (.member true) table filter =>
    .all [.subquery field (.member true) table (.all [filter.excludingNulls, known field]),
      known field]
  | .subquery field operation table filter =>
    .subquery field operation table filter.excludingNulls
  | p => p

def Predicate.excludingNullsAll : List Predicate → List Predicate
  | [] => []
  | p :: ps => p.excludingNulls :: Predicate.excludingNullsAll ps

end

theorem Predicate.excludingNullsAll_eq_map (ps : List Predicate) :
    Predicate.excludingNullsAll ps = ps.map Predicate.excludingNulls := by
  induction ps with
  | nil => rfl
  | cons p ps ih => rw [Predicate.excludingNullsAll, ih, List.map_cons]

/-! ### Longs beside longs and nulls -/

def Value.IsLong (v : Value) : Prop :=
  v = .null ∨ ∃ i, v = .integer i

theorem Value.test_equal_integer (i : Int) {w : Value} (hw : w.IsLong) :
    (Value.integer i).test .equal w =
      if w = .null then .unknown else .ofBool (w = .integer i) := by
  rcases hw with rfl | ⟨j, rfl⟩
  · rfl
  · have horder : (compare i j == .eq) = decide (Value.integer j = .integer i) := by
      rw [Bool.eq_iff_iff, beq_iff_eq, Std.compare_eq_iff_eq, decide_eq_true_iff,
        Value.integer.injEq, eq_comm]
    show Truth.ofBool (compare i j == .eq) = _
    rw [horder]
    rfl

theorem Value.among_integer_eq_true (i : Int) {ws : List Value} (hws : ∀ w ∈ ws, w.IsLong) :
    (Value.integer i).among ws = .true ↔ .integer i ∈ ws := by
  rw [Value.among_eq_true]
  constructor
  · rintro ⟨w, hw, htest⟩
    rw [Value.test_equal_integer i (hws w hw)] at htest
    split at htest
    · cases htest
    · have heq : w = .integer i := by simpa using htest
      rwa [heq] at hw
  · intro hi
    refine ⟨_, hi, ?_⟩
    rw [Value.test_equal_integer i (hws _ hi)]
    simp

theorem Value.among_integer_eq_false (i : Int) {ws : List Value} (hws : ∀ w ∈ ws, w.IsLong) :
    (Value.integer i).among ws = .false ↔ .null ∉ ws ∧ .integer i ∉ ws := by
  rw [Value.among_eq_false]
  constructor
  · intro h
    constructor
    · intro hnull
      cases h _ hnull
    · intro hi
      have htest := h _ hi
      rw [Value.test_equal_integer i (hws _ hi)] at htest
      simp at htest
  · rintro ⟨hnull, hi⟩ w hw
    have hne : w ≠ .null := fun h => hnull (h ▸ hw)
    have hne' : w ≠ .integer i := fun h => hi (h ▸ hw)
    rw [Value.test_equal_integer i (hws w hw), if_neg hne]
    simp [hne']

theorem eval_known {row : Row} {field : String} (h : (row field).IsLong) (db : Database) :
    (known field).eval db row = .true ↔ row field ≠ .null := by
  show Predicate.evalAny db row _ = .true ↔ _
  rw [Predicate.evalAny_eq_true]
  rcases h with hnull | ⟨i, hi⟩
  -- both tests of a null are `UNKNOWN`
  · simp [Predicate.eval, hnull, Value.test_null]
  · have htest : ∀ c, (Value.integer i).test c (.integer 0) =
        .ofBool (c.accepts (compare i 0)) := fun _ => rfl
    have hone : Comparison.equal.accepts (compare i 0) = true ∨
        Comparison.notEqual.accepts (compare i 0) = true := by
      cases compare i 0 <;> simp [Comparison.accepts]
    simpa [Predicate.eval, hi, htest] using hone

theorem eval_all_known {row : Row} {field : String} (h : (row field).IsLong) (db : Database)
    (p : Predicate) :
    (Predicate.all [p, known field]).eval db row = .true ↔
      p.eval db row = .true ∧ row field ≠ .null := by
  show Predicate.evalAll db row _ = .true ↔ _
  rw [Predicate.evalAll_eq_true, ← eval_known h db]
  simp

theorem Predicate.isLong_of_mem_selected {db : Database} {table field : String}
    (h : ∀ r ∈ db table, (r field).IsLong) {filter : Predicate} :
    ∀ w ∈ filter.selected db table field, w.IsLong := by
  intro w hw
  obtain ⟨r, hr, rfl⟩ := List.mem_map.mp hw
  exact h r (List.mem_filter.mp hr).1

/-- With the nulls left out, a subquery selects the other values. -/
theorem Predicate.mem_selected_known {db : Database} {table field : String}
    (h : ∀ r ∈ db table, (r field).IsLong) (filter : Predicate) (w : Value) :
    w ∈ (Predicate.all [filter, known field]).selected db table field ↔
      w ∈ filter.selected db table field ∧ w ≠ .null := by
  simp only [Predicate.selected, List.mem_map, List.mem_filter, decide_eq_true_iff]
  constructor
  · rintro ⟨r, ⟨hr, heval⟩, rfl⟩
    obtain ⟨hfilter, hnull⟩ := (eval_all_known (h r hr) db filter).mp heval
    exact ⟨⟨r, ⟨hr, hfilter⟩, rfl⟩, hnull⟩
  · rintro ⟨⟨r, ⟨hr, hfilter⟩, rfl⟩, hnull⟩
    exact ⟨r, ⟨hr, (eval_all_known (h r hr) db filter).mpr ⟨hfilter, hnull⟩⟩, rfl⟩

end Sql

/-! ### One subquery -/

theorem Sql.Row.isLong_ofJson {row : Json} (hrow : RowTyped (fun _ => .long) row)
    (field : String) : (Row.ofJson row field).IsLong := by
  cases hfield : Memory.field? row field with
  | none => exact .inl (Row.ofJson_of_missing hfield)
  | some value =>
    rw [Row.ofJson_of_stored hfield]
    cases hrow field value hfield with
    | long hi => exact .inr ⟨_, rfl⟩

theorem isLong_of_mem_table {rows : List Json}
    (hrows : ∀ row ∈ rows, RowTyped (fun _ => .long) row) {db : Database} {table : String}
    (hdb : db table = rows.map Row.ofJson) (field : String) :
    ∀ r ∈ db table, (r field).IsLong := by
  intro r hr
  rw [hdb] at hr
  obtain ⟨row, hrow, rfl⟩ := List.mem_map.mp hr
  exact Row.isLong_ofJson (hrows row hrow) field

def Memory.Predicate.selected (rows : List Json) (field : String) (filter : Memory.Predicate) :
    List Json :=
  (rows.filter fun row => filter.holds rows row).filterMap (Memory.field? · field)

theorem Memory.Predicate.holds_nested_member (rows : List Json) (row : Json) (field : String)
    (negated : Bool) (filter : Memory.Predicate) :
    (Memory.Predicate.nested field (.member negated) filter).holds rows row =
      (Memory.field? row field).any fun outer =>
        ((filter.selected rows field).any fun v => Memory.compareFields outer v == some .eq) !=
          negated := by
  cases h : Memory.field? row field with
  | none => simp [Memory.Predicate.holds, h]
  | some outer =>
    simp [Memory.Predicate.holds, h, Memory.holdsOfSelected, Memory.Predicate.selected]

/-- Filters that select the same rows make subqueries that select the same longs. -/
theorem Memory.any_selected_iff {rows : List Json}
    (hrows : ∀ row ∈ rows, RowTyped (fun _ => .long) row) {db : Database} {table : String}
    (hdb : db table = rows.map Row.ofJson) {m : Memory.Predicate} {s : Sql.Predicate}
    (h : SelectSame rows db m s) (field : String) {i : Int} (hi : Numeral.isLong i) :
    (m.selected rows field).any
        (fun value => Memory.compareFields (.integer i) value == some .eq) = true ↔
      .integer i ∈ s.selected db table field := by
  rw [List.any_eq_true]
  constructor
  · rintro ⟨value, hvalue, hequal⟩
    obtain ⟨row, hselected, hfield⟩ := List.mem_filterMap.mp hvalue
    obtain ⟨hrow, hholds⟩ := List.mem_filter.mp hselected
    apply List.mem_map.mpr
    refine ⟨Row.ofJson row, List.mem_filter.mpr ⟨?_, ?_⟩, ?_⟩
    · rw [hdb]
      exact List.mem_map_of_mem hrow
    · simpa using (h row hrow).mp hholds
    · rw [Row.ofJson_of_stored hfield]
      cases hrows row hrow field value hfield with
      | @long j hj =>
        have hij : compare i j = .eq := by simpa [Memory.compareFields, hi, hj] using hequal
        rw [Std.compare_eq_iff_eq.mp hij]
        rfl
  · intro hmem
    obtain ⟨r, hselected, heq⟩ := List.mem_map.mp hmem
    obtain ⟨hr, htrue⟩ := List.mem_filter.mp hselected
    rw [hdb] at hr
    obtain ⟨row, hrow, rfl⟩ := List.mem_map.mp hr
    have hholds := (h row hrow).mpr (by simpa using htrue)
    cases hfield : Memory.field? row field with
    | none =>
      rw [Row.ofJson_of_missing hfield] at heq
      cases heq
    | some value =>
      refine ⟨value, List.mem_filterMap.mpr ⟨row, ?_, hfield⟩, ?_⟩
      · exact List.mem_filter.mpr ⟨hrow, hholds⟩
      · rw [Row.ofJson_of_stored hfield] at heq
        cases hrows row hrow field value hfield with
        | @long j hj =>
          obtain rfl : j = i := Sql.Value.integer.inj heq
          simp [Memory.compareFields, hi]

/-- **One `IN` or `NOT IN` on one row.** If the filters inside select the same rows, memory and SQL
differ if and only if the value clashes with the values selected. -/
theorem nested_agrees_iff {rows : List Json}
    (hrows : ∀ row ∈ rows, RowTyped (fun _ => .long) row) {db : Database} {table : String}
    (hdb : db table = rows.map Row.ofJson) {m : Memory.Predicate} {s : Sql.Predicate}
    (h : SelectSame rows db m s) (field : String) (negated : Bool) {row : Json}
    (hrow : row ∈ rows) :
    ((Memory.Predicate.nested field (.member negated) m).holds rows row = true ↔
      (Sql.Predicate.subquery field (.member negated) table s).eval db (Row.ofJson row) = .true) ↔
    ¬ (negated = true ∧ Sql.Clash (Row.ofJson row field) (s.selected db table field)) := by
  have hlongs : ∀ w ∈ s.selected db table field, w.IsLong :=
    Sql.Predicate.isLong_of_mem_selected (isLong_of_mem_table hrows hdb field)
  rw [Sql.Predicate.eval_subquery_member, Memory.Predicate.holds_nested_member]
  cases hfield : Memory.field? row field with
  | none =>
    rw [Row.ofJson_of_missing hfield, Sql.Clash, if_pos rfl]
    -- a null beside nothing clashes, a null beside anything is `UNKNOWN`
    by_cases hempty : s.selected db table field = []
    · rw [hempty]
      cases negated <;> simp [Sql.Value.among, Sql.Truth.any, Sql.Truth.negate]
    · rw [Sql.Value.among_null hempty]
      simp [hempty]
  | some value =>
    rw [Row.ofJson_of_stored hfield, Option.any_some]
    cases hrows row hrow field value hfield with
    | @long i hi =>
      have hany := Memory.any_selected_iff hrows hdb h field hi
      have hclash : Sql.Clash (.integer i) (s.selected db table field) ↔
          .null ∈ s.selected db table field ∧ .integer i ∉ s.selected db table field := by
        simp [Sql.Clash]
      show (_ ↔ ((Sql.Value.integer i).among _).negate negated = .true) ↔
        ¬ (_ ∧ Sql.Clash (.integer i) _)
      cases negated with
      | false =>
        -- a null among the selected values equals nothing
        rw [Sql.Truth.negate_false, Sql.Value.among_integer_eq_true i hlongs, ← hany]
        simp
      | true =>
        -- a null among them keeps the list from being `FALSE`, and `NOT` from being `TRUE`
        rw [Sql.Truth.negate_true_eq_true, Sql.Value.among_integer_eq_false i hlongs, hclash,
          ← hany]
        by_cases hnull : Sql.Value.null ∈ s.selected db table field <;> simp [hnull]

/-- **`NOT IN` in memory** is the `NOT IN` of SQL without the nulls on either side. -/
theorem selectSame_notIn {rows : List Json}
    (hrows : ∀ row ∈ rows, RowTyped (fun _ => .long) row) {db : Database} {table : String}
    (hdb : db table = rows.map Row.ofJson) {m : Memory.Predicate} {s : Sql.Predicate}
    (h : SelectSame rows db m s) (field : String) :
    SelectSame rows db (.nested field (.member true) m)
      (.all [.subquery field (.member true) table (.all [s, Sql.known field]),
        Sql.known field]) := by
  intro row hrow
  have htable := isLong_of_mem_table hrows hdb field
  have hlongs : ∀ w ∈ (Sql.Predicate.all [s, Sql.known field]).selected db table field, w.IsLong :=
    Sql.Predicate.isLong_of_mem_selected htable
  have hvalue := Row.isLong_ofJson (hrows row hrow) field
  rw [Sql.eval_all_known hvalue, Sql.Predicate.eval_subquery_member,
    Memory.Predicate.holds_nested_member]
  cases hfield : Memory.field? row field with
  | none =>
    rw [Row.ofJson_of_missing hfield]
    simp
  | some value =>
    rw [Row.ofJson_of_stored hfield, Option.any_some]
    cases hrows row hrow field value hfield with
    | @long i hi =>
      have hany := Memory.any_selected_iff hrows hdb h field hi
      show _ ↔ ((Sql.Value.integer i).among _).negate true = .true ∧ Sql.Value.integer i ≠ .null
      rw [Sql.Truth.negate_true_eq_true, Sql.Value.among_integer_eq_false i hlongs,
        Sql.Predicate.mem_selected_known htable, Sql.Predicate.mem_selected_known htable, ← hany]
      simp

/-! ### Requests -/

/-- A parameter of a request on longs: a flat one, or one with `in` or `notIn` over a group of such
parameters. -/
inductive LongParam (config : Config) : Param → Prop
  | flat {p : Param} : FlatParam config (fun _ => .long) p → LongParam config p
  | nested {p : Param} {code : String} (negated : Bool) :
    config.stripMarker? p.code = some code →
    NestedOperation.ofCode code = .ok (.member negated) →
    (∀ g, Engine.nestedGroup (.member negated) p = .ok g → ∀ q ∈ g.params, LongParam config q) →
    LongParam config p

/-- What a filter in memory selects, compared with the predicate that SQL gets. -/
structure SameButForNulls (rows : List Json) (db : Database) (m : Memory.Predicate)
    (s : Sql.Predicate) : Prop where
  excluding : SelectSame rows db m s.excludingNulls
  clashFree : s.ClashFree db (rows.map Row.ofJson) → SelectSame rows db m s

theorem forall₂_excluding {rows : List Json} {db : Database} {ms : List Memory.Predicate}
    {ss : List Sql.Predicate} (h : List.Forall₂ (SameButForNulls rows db) ms ss) :
    List.Forall₂ (SelectSame rows db) ms (Sql.Predicate.excludingNullsAll ss) := by
  rw [Sql.Predicate.excludingNullsAll_eq_map, List.forall₂_map_right_iff]
  exact h.imp fun _ _ hms => hms.excluding

theorem forall₂_clashFree {rows : List Json} {db : Database} {ms : List Memory.Predicate}
    {ss : List Sql.Predicate} (h : List.Forall₂ (SameButForNulls rows db) ms ss)
    (hfree : Sql.Predicate.ClashFreeAll db (rows.map Row.ofJson) ss) :
    List.Forall₂ (SelectSame rows db) ms ss := by
  induction h with
  | nil => exact .nil
  | cons hhead _ ih =>
    obtain ⟨hfirst, hrest⟩ := hfree
    exact .cons (hhead.clashFree hfirst) (ih hrest)

/-- A filter without subqueries has no nulls to leave out. -/
theorem SameButForNulls.of_condition {columns : String → ColumnType} {rows : List Json}
    (hrows : ∀ row ∈ rows, RowTyped columns row) (db : Database) {c : Condition}
    (hc : c.Fits columns) :
    SameButForNulls rows db (.condition c) (Sql.Predicate.ofCondition c) := by
  have hsame := selectSame_condition hrows db hc
  have hplain : (Sql.Predicate.ofCondition c).excludingNulls = Sql.Predicate.ofCondition c := by
    cases c <;> first | rfl | exact hc.elim
  constructor
  · rwa [hplain]
  · exact fun _ => hsame

theorem SameButForNulls.nested {rows : List Json}
    (hrows : ∀ row ∈ rows, RowTyped (fun _ => .long) row) {db : Database} {table : String}
    (hdb : db table = rows.map Row.ofJson) {m : Memory.Predicate} {s : Sql.Predicate}
    (h : SameButForNulls rows db m s) (field : String) (negated : Bool) :
    SameButForNulls rows db (.nested field (.member negated) m)
      (.subquery field (.member negated) table s) := by
  constructor
  · cases negated with
    -- only `NOT IN` is rewritten
    | true => exact selectSame_notIn hrows hdb h.excluding field
    | false =>
      intro row hrow
      refine (nested_agrees_iff hrows hdb h.excluding field false hrow).mpr ?_
      simp
  · rintro ⟨hfree, hlocal⟩ row hrow
    refine (nested_agrees_iff hrows hdb (h.clashFree hfree) field negated hrow).mpr ?_
    rintro ⟨rfl, hclash⟩
    exact hlocal rfl _ (List.mem_map_of_mem hrow) hclash

theorem simulation_long {rows : List Json}
    (hrows : ∀ row ∈ rows, RowTyped (fun _ => .long) row) (config : Config) {table : String}
    {db : Database} (hdb : db table = rows.map Row.ofJson) :
    Simulation Memory.Predicate.backend (Sql.Predicate.backend table) config
      (SameButForNulls rows db) (LongParam config) where
  everything := SameButForNulls.of_condition hrows db (c := .everything) trivial
  conjunction h :=
    ⟨selectSame_all (forall₂_excluding h), fun hfree => selectSame_all (forall₂_clashFree h hfree)⟩
  disjunction h :=
    ⟨selectSame_any (forall₂_excluding h), fun hfree => selectSame_any (forall₂_clashFree h hfree)⟩
  search := by
    intro p operation hp hcode hoperation
    cases hp with
    | flat hflat =>
      apply Alike.bind_same fun _ => rfl
      intro c hc
      have hfits := hflat.fits hoperation hc
      show Alike _ _ (Memory.Predicate.ofCondition c) (.ok (Sql.Predicate.ofCondition c))
      rw [Memory.Predicate.ofCondition_of_fits hfits]
      exact .ok (.of_condition hrows db hfits)
    | nested _ hnested =>
      rw [hcode] at hnested
      cases hnested
  nested := by
    intro p code operation m s hp hpaging hcode hoperation h
    cases hp with
    | flat hflat =>
      rw [hflat.not_nested hpaging] at hcode
      cases hcode
    | nested negated hcode' hoperation' =>
      obtain rfl := Option.some.inj (hcode'.symm.trans hcode)
      obtain rfl := Except.ok.inj (hoperation'.symm.trans hoperation)
      exact .ok (h.nested hrows hdb p.name negated)
  inner := by
    intro p code operation group hp hpaging hcode hoperation hgroup
    cases hp with
    | flat hflat =>
      rw [hflat.not_nested hpaging] at hcode
      cases hcode
    | nested negated hcode' hoperation' hinner =>
      obtain rfl := Option.some.inj (hcode'.symm.trans hcode)
      obtain rfl := Except.ok.inj (hoperation'.symm.trans hoperation)
      exact hinner group hgroup

/-- **Subqueries agree but for nulls.** For every request on longs, the filter in memory holds on a
row if and only if its predicate is `TRUE` once each `NOT IN` leaves out the nulls on both sides. It
is the predicate itself that is `TRUE` if no `NOT IN` clashes. And a single `IN` or `NOT IN`, over
filters that select the same rows, differs on exactly the rows where a `NOT IN` clashes. -/
theorem subqueries_agree_but_for_nulls {rows : List Json}
    (hrows : ∀ row ∈ rows, RowTyped (fun _ => .long) row) (config : Config) {table : String}
    {db : Database} (hdb : db table = rows.map Row.ofJson) {groups : List Group}
    (hgroups : ∀ g ∈ groups, ∀ p ∈ g.params, LongParam config p) (glue : Glue)
    {m : Memory.Predicate} {s : Sql.Predicate}
    (hm : (Engine.plain Memory.Predicate.backend config).filterGroups groups glue = .ok m)
    (hs : (Engine.plain (Sql.Predicate.backend table) config).filterGroups groups glue = .ok s) :
    (∀ row ∈ rows,
      m.holds rows row = true ↔ s.excludingNulls.eval db (Row.ofJson row) = .true) ∧
    (s.ClashFree db (db table) →
      ∀ row ∈ rows, m.holds rows row = true ↔ s.eval db (Row.ofJson row) = .true) ∧
    ∀ field negated m' s', SelectSame rows db m' s' → ∀ row ∈ rows,
      (((Memory.Predicate.nested field (.member negated) m').holds rows row = true ↔
        (Sql.Predicate.subquery field (.member negated) table s').eval db (Row.ofJson row) =
          .true) ↔
      ¬ (negated = true ∧ Sql.Clash (Row.ofJson row field) (s'.selected db table field))) := by
  have halike := (simulation_long hrows config hdb).alike_filterGroups hgroups glue
  have hsame := halike.of_eq_ok hm hs
  refine ⟨hsame.excluding, ?_, ?_⟩
  · rw [hdb]
    exact hsame.clashFree
  · intro field negated m' s' h row hrow
    exact nested_agrees_iff hrows hdb h field negated hrow

/-- A null among the selected values keeps `NOT IN` from being `TRUE` in SQL, and not in memory. -/
theorem subqueries_differ_beside_null :
    let outer : Json := .object [("a", .integer 2), ("b", .integer 0)]
    let rows : List Json := [outer, .object [("a", .null), ("b", .integer 1)]]
    let db : Database := fun _ => rows.map Row.ofJson
    let m : Memory.Predicate :=
      .nested "a" (.member true) (.condition (.compare "b" .equal (.long 1)))
    let s : Sql.Predicate :=
      .subquery "a" (.member true) "rows" (.compare "b" .equal (.integer 1))
    m.holds rows outer = true ∧ s.eval db (Row.ofJson outer) = .unknown ∧
      s.excludingNulls.eval db (Row.ofJson outer) = .true := by
  intro outer rows db m s
  have hrows : ∀ row ∈ rows, RowTyped (fun _ => .long) row := by
    intro row hrow
    rcases List.mem_pair.mp hrow with rfl | rfl <;> apply rowTyped_object <;> simp
    · exact ⟨.long (by decide), .long (by decide)⟩
    · exact .long (by decide)
  have hgroups : ∀ g ∈ [Group.mk [.withCode "a" "nst:notIn"
      (.group ⟨[.withCode "b" "eq" (.integer 1)], .and⟩)] .and],
      ∀ p ∈ g.params, LongParam {} p := by
    intro g hg p hp
    obtain rfl := List.mem_singleton.mp hg
    obtain rfl := List.mem_singleton.mp hp
    refine .nested true (show Config.stripMarker? {} "nst:notIn" = some "notIn" from rfl) rfl ?_
    intro g hg q hq
    obtain rfl := Except.ok.inj hg
    obtain rfl := List.mem_singleton.mp hq
    refine .flat (.compare .equal rfl rfl ?_)
    rintro v ⟨⟩
    rfl
  have hdb : db "rows" = rows.map Row.ofJson := rfl
  have hsame := subqueries_agree_but_for_nulls hrows {} hdb hgroups .and (m := m) (s := s) rfl rfl
  have hholds : m.holds rows outer = true := by decide
  exact ⟨hholds, by decide, (hsame.1 outer (by simp [rows])).mp hholds⟩

end FilterQuery
