import FilterQuery.Engine
import FilterQuery.Memory.Predicate
import FilterQuery.Proofs.Engine.Outcome
import FilterQuery.Proofs.Engine.Requests

/-!
# Filters are built part by part

A list of parameters is built by building each parameter and joining the fragments; a list of groups
is built from its groups in the same way. `Partwise` states what follows from that, for either:
which lists build, which error is reported, and on which rows the filter holds. A paging parameter
builds to no fragment, so it counts for nothing, but it is never in the way either.

The order of the parts shows in the error alone. Parameters may change places, in every group down
to any depth, and so may the groups (`Rearranged`, `ParamRearranged`): both requests build or
neither does, and the filters hold on the same rows.
-/

namespace FilterQuery

/-! ### Joining -/

/-- What several conditions amount to under a glue. None at all hold together under either. -/
def Glue.join : Glue → List Bool → Bool
  | _, [] => true
  | .and, bs => bs.all id
  | .or, bs => bs.any id

theorem Glue.join_eq_true {glue : Glue} {bs : List Bool} :
    glue.join bs = true ↔
      bs = [] ∨ (glue = .and ∧ ∀ b ∈ bs, b = true) ∨ (glue = .or ∧ ∃ b ∈ bs, b = true) := by
  cases bs with
  | nil => simp [Glue.join]
  | cons b bs => cases glue <;> simp [Glue.join]

theorem Glue.join_perm {glue : Glue} {bs cs : List Bool} (h : bs.Perm cs) :
    glue.join bs = glue.join cs := by
  rw [Bool.eq_iff_iff, Glue.join_eq_true, Glue.join_eq_true]
  have hempty : bs = [] ↔ cs = [] := by
    rw [← List.length_eq_zero_iff, h.length_eq, List.length_eq_zero_iff]
  simp only [hempty, h.mem_iff]

namespace Memory

theorem holdsAll_eq (rows : List Json) (row : Json) (ms : List Predicate) :
    Predicate.holdsAll rows row ms = (ms.map fun m => m.holds rows row).all id := by
  induction ms with
  | nil => rfl
  | cons m ms ih => rw [Predicate.holdsAll, ih, List.map_cons, List.all_cons, id]

theorem holdsAny_eq (rows : List Json) (row : Json) (ms : List Predicate) :
    Predicate.holdsAny rows row ms = (ms.map fun m => m.holds rows row).any id := by
  induction ms with
  | nil => rfl
  | cons m ms ih => rw [Predicate.holdsAny, ih, List.map_cons, List.any_cons, id]

theorem holds_combine (glue : Glue) (ms : List Predicate) (rows : List Json) (row : Json) :
    (Predicate.backend.combine glue ms).holds rows row =
      glue.join (ms.map fun m => m.holds rows row) := by
  match ms with
  | [] => rfl
  | [m] => cases glue <;> simp [Backend.combine, Glue.join]
  | m :: n :: ms =>
    cases glue with
    | and => exact holdsAll_eq rows row (m :: n :: ms)
    | or => exact holdsAny_eq rows row (m :: n :: ms)

end Memory

open Memory (Predicate)

/-! ### The law -/

section

variable {α : Type} (build : List α → Glue → Except FilterError Predicate)

/-- A part holds on a row if the filter that it builds to alone holds. -/
def HoldsAlone (rows : List Json) (row : Json) (x : α) : Prop :=
  ∃ m, build [x] .and = .ok m ∧ m.holds rows row = true

/-- Lists are built part by part. `Counts` tells the parts that bear on the rows. -/
structure Partwise (Counts : α → Prop) : Prop where
  /-- Alone, a part is under no glue. -/
  alone (x : α) (glue : Glue) : build [x] glue = build [x] .and
  /-- A list builds if and only if each part builds alone. -/
  exists_ok (xs : List α) (glue : Glue) :
    (∃ m, build xs glue = .ok m) ↔ ∀ x ∈ xs, ∃ m, build [x] .and = .ok m
  /-- The error is that of the first part that does not build. -/
  eq_error (xs : List α) (glue : Glue) (e : FilterError) :
    build xs glue = .error e ↔ ∃ before x after, xs = before ++ x :: after ∧
      (∀ y ∈ before, ∃ m, build [y] .and = .ok m) ∧ build [x] .and = .error e
  /-- The filter holds as the parts that count hold, under the glue; always if there are none. -/
  holds_iff {xs : List α} {glue : Glue} {m : Predicate} : build xs glue = .ok m →
    ∀ rows row, m.holds rows row = true ↔
      (∀ x ∈ xs, ¬ Counts x) ∨
      (glue = .and ∧ ∀ x ∈ xs, Counts x → HoldsAlone build rows row x) ∨
      (glue = .or ∧ ∃ x ∈ xs, Counts x ∧ HoldsAlone build rows row x)

end

/-- Builds each part, and joins the fragments. -/
def joinParts {α : Type} (step : α → Except FilterError (Option Predicate)) (xs : List α)
    (glue : Glue) : Except FilterError Predicate :=
  (xs.mapM step).map fun fs => Predicate.backend.combine glue (fs.filterMap id)

section

variable {α : Type} {step : α → Except FilterError (Option Predicate)}

theorem joinParts_singleton (x : α) (glue : Glue) :
    joinParts step [x] glue = (step x).map fun f => f.getD Predicate.backend.everything := by
  unfold joinParts
  rw [List.mapM_cons]
  cases step x with
  | error e => rfl
  | ok f => cases f <;> rfl

theorem exists_joinParts_singleton {x : α} {glue : Glue} :
    (∃ m, joinParts step [x] glue = .ok m) ↔ ∃ f, step x = .ok f := by
  rw [joinParts_singleton]
  cases step x <;> simp [Except.map]

theorem joinParts_singleton_eq_error {x : α} {glue : Glue} {e : FilterError} :
    joinParts step [x] glue = .error e ↔ step x = .error e := by
  rw [joinParts_singleton]
  cases step x <;> simp [Except.map]

theorem holdsAlone_iff {x : α} {m : Predicate} (hx : step x = .ok (some m)) (rows : List Json)
    (row : Json) : HoldsAlone (joinParts step) rows row x ↔ m.holds rows row = true := by
  have hbuild : joinParts step [x] .and = .ok m := by
    rw [joinParts_singleton, hx]
    rfl
  constructor
  · rintro ⟨n, hn, hholds⟩
    obtain rfl : m = n := Except.ok.inj (hbuild.symm.trans hn)
    exact hholds
  · exact fun hholds => ⟨m, hbuild, hholds⟩

/-- The answers of the fragments are those of the parts that have one. -/
theorem mem_answers {xs : List α} {fs : List (Option Predicate)} (hfs : xs.mapM step = .ok fs)
    {rows : List Json} {row : Json} {b : Bool} :
    b ∈ (fs.filterMap id).map (fun m => m.holds rows row) ↔
      ∃ x ∈ xs, ∃ m, step x = .ok (some m) ∧ m.holds rows row = b := by
  simp only [List.mem_map, List.mem_filterMap, id, mem_mapM hfs]
  constructor
  · rintro ⟨m, ⟨f, ⟨x, hx, hf⟩, rfl⟩, hb⟩
    exact ⟨x, hx, m, hf, hb⟩
  · rintro ⟨x, hx, m, hf, hb⟩
    exact ⟨m, ⟨some m, ⟨x, hx, hf⟩, rfl⟩, hb⟩

variable {Counts : α → Prop} (hcounts : ∀ x, step x = .ok none ↔ ¬ Counts x)
include hcounts

/-- Of the parts that build, those count that have a fragment. -/
theorem counts_iff {x : α} (hx : ∃ f, step x = .ok f) :
    Counts x ↔ ∃ m, step x = .ok (some m) := by
  obtain ⟨f, hf⟩ := hx
  rw [← not_iff_not, ← hcounts, hf]
  cases f <;> simp

theorem joinParts_holds_iff {xs : List α} {glue : Glue} {m : Predicate}
    (hm : joinParts step xs glue = .ok m) (rows : List Json) (row : Json) :
    m.holds rows row = true ↔
      (∀ x ∈ xs, ¬ Counts x) ∨
      (glue = .and ∧ ∀ x ∈ xs, Counts x → HoldsAlone (joinParts step) rows row x) ∨
      (glue = .or ∧ ∃ x ∈ xs, Counts x ∧ HoldsAlone (joinParts step) rows row x) := by
  obtain ⟨fs, hfs, rfl⟩ := map_eq_ok.mp hm
  have hcount : ∀ x ∈ xs, Counts x ↔ ∃ m, step x = .ok (some m) := fun x hx =>
    counts_iff hcounts (exists_mapM_eq_ok.mp ⟨fs, hfs⟩ x hx)
  have hempty : (fs.filterMap id).map (fun m => m.holds rows row) = [] ↔
      ∀ x ∈ xs, ¬ Counts x := by
    rw [List.eq_nil_iff_forall_not_mem]
    constructor
    · intro h x hx hx'
      obtain ⟨m, hm⟩ := (hcount x hx).mp hx'
      -- a part that counts would have an answer
      exact h _ ((mem_answers hfs).mpr ⟨x, hx, m, hm, rfl⟩)
    · intro h b hb
      obtain ⟨x, hx, m, hm, -⟩ := (mem_answers hfs).mp hb
      exact h x hx ((hcount x hx).mpr ⟨m, hm⟩)
  have hall : (∀ b ∈ (fs.filterMap id).map (fun m => m.holds rows row), b = true) ↔
      ∀ x ∈ xs, Counts x → HoldsAlone (joinParts step) rows row x := by
    constructor
    · intro h x hx hx'
      obtain ⟨m, hm⟩ := (hcount x hx).mp hx'
      exact (holdsAlone_iff hm rows row).mpr (h _ ((mem_answers hfs).mpr ⟨x, hx, m, hm, rfl⟩))
    · intro h b hb
      obtain ⟨x, hx, m, hm, rfl⟩ := (mem_answers hfs).mp hb
      exact (holdsAlone_iff hm rows row).mp (h x hx ((hcount x hx).mpr ⟨m, hm⟩))
  have hany : (∃ b ∈ (fs.filterMap id).map (fun m => m.holds rows row), b = true) ↔
      ∃ x ∈ xs, Counts x ∧ HoldsAlone (joinParts step) rows row x := by
    constructor
    · rintro ⟨b, hb, rfl⟩
      obtain ⟨x, hx, m, hm, hholds⟩ := (mem_answers hfs).mp hb
      exact ⟨x, hx, (hcount x hx).mpr ⟨m, hm⟩, (holdsAlone_iff hm rows row).mpr hholds⟩
    · rintro ⟨x, hx, hx', halone⟩
      obtain ⟨m, hm⟩ := (hcount x hx).mp hx'
      have hholds := (holdsAlone_iff hm rows row).mp halone
      exact ⟨true, (mem_answers hfs).mpr ⟨x, hx, m, hm, hholds⟩, rfl⟩
  rw [Memory.holds_combine, Glue.join_eq_true, hempty, hall, hany]

/-- **What is built by joining parts is built part by part.** The parts that count are those with a
fragment. -/
theorem partwise_joinParts : Partwise (joinParts step) Counts where
  alone x glue := by rw [joinParts_singleton, joinParts_singleton]
  exists_ok xs glue := by
    simp only [exists_joinParts_singleton, ← exists_mapM_eq_ok]
    unfold joinParts
    cases xs.mapM step <;> simp [Except.map]
  eq_error xs glue e := by
    simp only [exists_joinParts_singleton, joinParts_singleton_eq_error, ← mapM_eq_error]
    unfold joinParts
    cases xs.mapM step <;> simp [Except.map]
  holds_iff := joinParts_holds_iff hcounts

end

/-! ### The engine builds part by part -/

namespace Engine

variable {F : Type} (e : Engine F)

/-- What plans the groups inside a parameter, with so many levels of nesting left. -/
def inside : Nat → Option (Group → Except FilterError F)
  | 0 => none
  | levels + 1 => some (e.planGroup levels)

theorem planGroup_eq (levels : Nat) (g : Group) :
    e.planGroup levels g = e.planParams (e.inside levels) g := by
  cases levels <;> rfl

variable {e} {plan : Option (Group → Except FilterError F)} {p : Param}

theorem planParam_of_paging (hpaging : p.paging? ≠ none) : e.planParam plan p = .ok none := by
  rw [planParam, if_pos (Option.isSome_iff_ne_none.mpr hpaging)]

theorem planParam_of_override (hpaging : p.paging? = none) {override : Override F}
    (hoverride : e.overrides.get? p.name = some override) :
    e.planParam plan p = (override.build p).map some := by
  rw [planParam, if_neg (by simp [hpaging]), hoverride]

theorem planParam_of_nested (hpaging : p.paging? = none)
    (hoverride : e.overrides.get? p.name = none) {code : String}
    (hcode : e.config.stripMarker? p.code = some code) :
    e.planParam plan p = (e.planNested plan p code).map some := by
  rw [planParam, if_neg (by simp [hpaging]), hoverride]
  simp only [hcode]

theorem planParam_of_flat (hpaging : p.paging? = none) (hoverride : e.overrides.get? p.name = none)
    (hcode : e.config.stripMarker? p.code = none) :
    ∃ x : Except FilterError F, e.planParam plan p = x.map some := by
  rw [planParam, if_neg (by simp [hpaging]), hoverride]
  simp only [hcode]
  cases hoperation : Operation.ofCode p.code with
  | error e => exact ⟨.error e, rfl⟩
  | ok operation =>
    cases operation with
    | search operation => exact ⟨_, rfl⟩
    | paging operation =>
      -- its code would be a paging code
      have hsome := Operation.ofCode_eq_ok.mp hoperation
      rw [Param.paging?, Operation.pagingOfCode?, hsome] at hpaging
      cases hpaging

/-- The fragment of a flat parameter is that of the searching operation that its code names. -/
theorem search_of_planParam_flat (hpaging : p.paging? = none)
    (hoverride : e.overrides.get? p.name = none) (hcode : e.config.stripMarker? p.code = none)
    {f : F} (h : e.planParam plan p = .ok (some f)) :
    ∃ operation, Operation.ofCode? p.code = some (.search operation) ∧
      e.backend.search operation p = .ok f := by
  rw [planParam, if_neg (by simp [hpaging]), hoverride] at h
  simp only [hcode] at h
  obtain ⟨operation, hoperation, h⟩ := bind_eq_ok.mp h
  cases operation with
  | search operation =>
    obtain ⟨_, hsearch, hf⟩ := map_eq_ok.mp h
    cases hf
    exact ⟨operation, Operation.ofCode_eq_ok.mp hoperation, hsearch⟩
  | paging operation => cases h

/-- Paging parameters, and no others, are without a fragment. -/
theorem planParam_eq_none : e.planParam plan p = .ok none ↔ p.paging? ≠ none := by
  constructor
  · intro hnone hpaging
    have hmap : ∃ x : Except FilterError F, e.planParam plan p = x.map some := by
      cases hoverride : e.overrides.get? p.name with
      | some override => exact ⟨_, planParam_of_override hpaging hoverride⟩
      | none =>
        cases hcode : e.config.stripMarker? p.code with
        | some code => exact ⟨_, planParam_of_nested hpaging hoverride hcode⟩
        | none => exact planParam_of_flat hpaging hoverride hcode
    obtain ⟨x, hx⟩ := hmap
    rw [hx] at hnone
    cases x <;> cases hnone
  · exact planParam_of_paging

end Engine

def memoryEngine (config : Config) (overrides : Overrides Predicate) : Engine Predicate :=
  { backend := Predicate.backend, config, overrides }

theorem planParams_eq_joinParts (config : Config) (overrides : Overrides Predicate)
    (plan : Option (Group → Except FilterError Predicate)) (g : Group) :
    (memoryEngine config overrides).planParams plan g =
      joinParts ((memoryEngine config overrides).planParam plan) g.params g.glue := by
  unfold Engine.planParams joinParts
  cases g.params.mapM ((memoryEngine config overrides).planParam plan) <;> rfl

theorem filterParams_eq_joinParts (config : Config) (overrides : Overrides Predicate)
    (ps : List Param) (glue : Glue) :
    (memoryEngine config overrides).filterParams ps glue =
      joinParts ((memoryEngine config overrides).planParam
        ((memoryEngine config overrides).inside config.maxNestingDepth)) ps glue := by
  unfold Engine.filterParams Engine.filterGroup
  rw [Engine.planGroup_eq, planParams_eq_joinParts]
  rfl

/-- Groups are parts as parameters are, and all of them have a fragment. -/
theorem filterGroups_eq_joinParts (config : Config) (overrides : Overrides Predicate)
    (groups : List Group) (glue : Glue) :
    (memoryEngine config overrides).filterGroups groups glue =
      joinParts (fun g => ((memoryEngine config overrides).filterGroup g).map some) groups
        glue := by
  unfold Engine.filterGroups joinParts
  rw [mapM_map_each]
  cases groups.mapM (memoryEngine config overrides).filterGroup with
  | error e => rfl
  | ok ms =>
    show Except.ok _ = Except.ok _
    simp [memoryEngine]

theorem partwise_filterParams (config : Config) (overrides : Overrides Predicate) :
    Partwise (memoryEngine config overrides).filterParams (fun p => p.paging? = none) := by
  have heq : (memoryEngine config overrides).filterParams = joinParts _ :=
    funext fun ps => funext fun glue => filterParams_eq_joinParts config overrides ps glue
  rw [heq]
  exact partwise_joinParts fun p => Engine.planParam_eq_none

theorem partwise_filterGroups (config : Config) (overrides : Overrides Predicate) :
    Partwise (memoryEngine config overrides).filterGroups (fun _ => True) := by
  have heq : (memoryEngine config overrides).filterGroups = joinParts _ :=
    funext fun gs => funext fun glue => filterGroups_eq_joinParts config overrides gs glue
  rw [heq]
  apply partwise_joinParts
  intro g
  cases (memoryEngine config overrides).filterGroup g <;> simp [Except.map]

theorem filterGroups_singleton (config : Config) (overrides : Overrides Predicate) (g : Group)
    (glue : Glue) :
    (memoryEngine config overrides).filterGroups [g] glue =
      (memoryEngine config overrides).filterParams g.params g.glue := by
  obtain ⟨params, glue⟩ := g
  show _ = (memoryEngine config overrides).filterGroup ⟨params, glue⟩
  rw [filterGroups_eq_joinParts, joinParts_singleton]
  cases (memoryEngine config overrides).filterGroup ⟨params, glue⟩ <;> rfl

/-! ### Other orders -/

/-- The same list but for the order, and for what `S` allows of its elements. -/
def Rearranged {α : Type} (S : α → α → Prop) (xs ys : List α) : Prop :=
  ∃ zs, xs.Perm zs ∧ List.Forall₂ S zs ys

/-- The same parameter but for the order in the group of its subquery, at any depth. An override
may look at the order, so its parameters stay as they are. -/
inductive ParamRearranged {F : Type} (e : Engine F) : Param → Param → Prop
  | refl (p : Param) : ParamRearranged e p p
  | inside {name code : String} {operation : Option String} {glue : Glue}
      {ps zs qs : List Param} :
    e.overrides.get? name = none → e.config.stripMarker? (operation.getD "") = some code →
    ps.Perm zs → List.Forall₂ (ParamRearranged e) zs qs →
    ParamRearranged e ⟨name, some (.group ⟨ps, glue⟩), operation⟩
      ⟨name, some (.group ⟨qs, glue⟩), operation⟩

/-- The same group but for the order of its parameters, and inside them. -/
def GroupRearranged {F : Type} (e : Engine F) (g h : Group) : Prop :=
  g.glue = h.glue ∧ Rearranged (ParamRearranged e) g.params h.params

/-- Two filters that no collection tells apart. -/
def SameRows (m n : Predicate) : Prop :=
  ∀ rows row, m.holds rows row = n.holds rows row

theorem SameRows.nested {m n : Predicate} (h : SameRows m n) (field : String)
    (operation : NestedOperation) :
    SameRows (.nested field operation m) (.nested field operation n) := by
  intro rows row
  cases operation <;> cases hfield : Memory.field? row field <;>
    simp only [Predicate.holds, hfield, h rows]

theorem holds_eq_of_forall₂ {ms ns : List Predicate} (h : List.Forall₂ SameRows ms ns)
    (rows : List Json) (row : Json) :
    (ms.map fun m => m.holds rows row) = ns.map fun n => n.holds rows row := by
  induction h with
  | nil => rfl
  | cons hmn _ ih => rw [List.map_cons, List.map_cons, hmn, ih]

/-- If the parts are built alike, so are rearranged lists of them. -/
theorem joinParts_rearranged {α : Type} {S : α → α → Prop}
    {step : α → Except FilterError (Option Predicate)}
    (hstep : ∀ x y, S x y → BothOrNeither (Option.Rel SameRows) (step x) (step y))
    {xs ys : List α} (h : Rearranged S xs ys) (glue : Glue) :
    BothOrNeither SameRows (joinParts step xs glue) (joinParts step ys glue) := by
  obtain ⟨zs, hperm, hzs⟩ := h
  have horder : BothOrNeither List.Perm (xs.mapM step) (zs.mapM step) :=
    bothOrNeither_mapM_perm hperm
  have hplaces : BothOrNeither (List.Forall₂ (Option.Rel SameRows)) (zs.mapM step)
      (ys.mapM step) := Alike.mapM hzs fun x _ y => hstep x y
  unfold joinParts
  apply (horder.trans hplaces).map
  rintro fs gs ⟨hs, hfs, hgs⟩ rows row
  rw [Memory.holds_combine, Memory.holds_combine,
    ← holds_eq_of_forall₂ (forall₂_filterMap_id hgs)]
  exact Glue.join_perm ((hfs.filterMap id).map _)

namespace Engine

variable {config : Config} {overrides : Overrides Predicate}

/-- The order inside a subquery does not matter if it does not matter one level down. -/
theorem planNested_alike {plan : Group → Except FilterError Predicate} {g h : Group}
    (hplan : BothOrNeither SameRows (plan g) (plan h)) (name code : String)
    (operation : Option String) :
    BothOrNeither SameRows
      ((memoryEngine config overrides).planNested (some plan)
        ⟨name, some (.group g), operation⟩ code)
      ((memoryEngine config overrides).planNested (some plan)
        ⟨name, some (.group h), operation⟩ code) := by
  cases hoperation : NestedOperation.ofCode code with
  | error error =>
    rw [planNested_of_error hoperation, planNested_of_error hoperation]
    exact .error trivial
  | ok operation =>
    rw [planNested_some hoperation (nestedGroup_of_asGroup rfl rfl),
      planNested_some hoperation (nestedGroup_of_asGroup rfl rfl)]
    -- the test for null does not look into the group
    have hgroup : BothOrNeither SameRows
        (plan (if operation = .isNull then default else g))
        (plan (if operation = .isNull then default else h)) := by
      split
      · exact .refl (fun _ => trivial) (fun m rows row => rfl) _
      · exact hplan
    apply hgroup.bind
    intro m n hmn
    exact .ok (hmn.nested name operation)

/-- The parameters are built alike, with so many levels of nesting left. -/
def BuiltAlike (e : Engine Predicate) (levels : Nat) (p q : Param) : Prop :=
  BothOrNeither (Option.Rel SameRows) (e.planParam (e.inside levels) p)
    (e.planParam (e.inside levels) q)

theorem BuiltAlike.refl (e : Engine Predicate) (levels : Nat) (p : Param) :
    BuiltAlike e levels p p := by
  apply Alike.refl fun _ => trivial
  intro f
  cases f with
  | none => exact .none
  | some m => exact .some fun rows row => rfl

theorem planGroup_rearranged {levels : Nat} {ps qs : List Param}
    (h : Rearranged (BuiltAlike (memoryEngine config overrides) levels) ps qs) (glue : Glue) :
    BothOrNeither SameRows ((memoryEngine config overrides).planGroup levels ⟨ps, glue⟩)
      ((memoryEngine config overrides).planGroup levels ⟨qs, glue⟩) := by
  rw [planGroup_eq, planGroup_eq, planParams_eq_joinParts, planParams_eq_joinParts]
  exact joinParts_rearranged (fun _ _ hpq => hpq) h glue

/-- Nested parameters of one field and code are built alike if their subqueries are. -/
theorem BuiltAlike.of_nested {levels : Nat} {p q : Param} {code : String}
    (hname : p.name = q.name) (hoperation : p.operation = q.operation)
    (hoverride : (memoryEngine config overrides).overrides.get? p.name = none)
    (hcode : (memoryEngine config overrides).config.stripMarker? p.code = some code)
    (h : BothOrNeither SameRows
      ((memoryEngine config overrides).planNested
        ((memoryEngine config overrides).inside levels) p code)
      ((memoryEngine config overrides).planNested
        ((memoryEngine config overrides).inside levels) q code)) :
    BuiltAlike (memoryEngine config overrides) levels p q := by
  have hcodes : p.code = q.code := by
    unfold Param.code
    rw [hoperation]
  have hpagings : p.paging? = q.paging? := by
    unfold Param.paging?
    rw [hcodes]
  unfold BuiltAlike
  by_cases hpaging : p.paging? = none
  · rw [planParam_of_nested hpaging hoverride hcode]
    rw [hpagings] at hpaging
    rw [hname] at hoverride
    rw [hcodes] at hcode
    rw [planParam_of_nested hpaging hoverride hcode]
    exact h.map fun _ _ hmn => .some hmn
  · -- a code can be for paging and begin with the mark at once
    rw [planParam_of_paging hpaging]
    rw [hpagings] at hpaging
    rw [planParam_of_paging hpaging]
    exact .ok .none

/-- The step down: a subquery is built with one level less. -/
theorem builtAlike_inside {name code : String} {operation : Option String} {glue : Glue}
    {ps qs : List Param}
    (hoverride : (memoryEngine config overrides).overrides.get? name = none)
    (hcode : (memoryEngine config overrides).config.stripMarker? (operation.getD "") = some code)
    (h : ∀ levels, Rearranged (BuiltAlike (memoryEngine config overrides) levels) ps qs)
    (levels : Nat) :
    BuiltAlike (memoryEngine config overrides) levels
      ⟨name, some (.group ⟨ps, glue⟩), operation⟩ ⟨name, some (.group ⟨qs, glue⟩), operation⟩ := by
  refine BuiltAlike.of_nested ?_ ?_ hoverride hcode ?_
  · rfl
  · rfl
  cases levels with
  | zero => exact Alike.bind_same (fun _ => trivial) fun _ _ => .error trivial
  | succ levels =>
    have hgroup := planGroup_rearranged (h levels) glue
    exact planNested_alike hgroup name code operation

mutual

/-- At any depth, what is rearranged inside a parameter does not show. -/
theorem builtAlike_of_rearranged {p q : Param} :
    ParamRearranged (memoryEngine config overrides) p q →
      ∀ levels, BuiltAlike (memoryEngine config overrides) levels p q
  | .refl p, levels => .refl _ levels p
  | .inside hoverride hcode hperm hrest, levels =>
    builtAlike_inside hoverride hcode
      (fun levels => ⟨_, hperm, forall₂_builtAlike_of_rearranged hrest levels⟩) levels

theorem forall₂_builtAlike_of_rearranged {ps qs : List Param} :
    List.Forall₂ (ParamRearranged (memoryEngine config overrides)) ps qs →
      ∀ levels, List.Forall₂ (BuiltAlike (memoryEngine config overrides) levels) ps qs
  | .nil, _ => .nil
  | .cons h hrest, levels =>
    .cons (builtAlike_of_rearranged h levels) (forall₂_builtAlike_of_rearranged hrest levels)

end

theorem filterGroup_rearranged {g h : Group}
    (hgh : GroupRearranged (memoryEngine config overrides) g h) :
    BothOrNeither SameRows ((memoryEngine config overrides).filterGroup g)
      ((memoryEngine config overrides).filterGroup h) := by
  obtain ⟨ps, glue⟩ := g
  obtain ⟨qs, glue'⟩ := h
  obtain ⟨hglue, zs, hperm, hzs⟩ := hgh
  obtain rfl : glue = glue' := hglue
  exact planGroup_rearranged ⟨zs, hperm, forall₂_builtAlike_of_rearranged hzs _⟩ glue

theorem filterGroups_rearranged {groups groups' : List Group}
    (h : Rearranged (GroupRearranged (memoryEngine config overrides)) groups groups')
    (glue : Glue) :
    BothOrNeither SameRows ((memoryEngine config overrides).filterGroups groups glue)
      ((memoryEngine config overrides).filterGroups groups' glue) := by
  rw [filterGroups_eq_joinParts, filterGroups_eq_joinParts]
  apply joinParts_rearranged _ h
  intro g h hgh
  exact (filterGroup_rearranged hgh).map fun _ _ hmn => .some hmn

end Engine

/-- **Filters in memory are built part by part, in any order.** A list of parameters and a list of
groups are each built part by part, where a group alone is built as its parameters are. In another
order, both requests build to filters that hold on the same rows, or neither builds. -/
theorem memory_builds_part_by_part (config : Config) (overrides : Overrides Predicate) :
    let e := memoryEngine config overrides
    Partwise e.filterParams (fun p => p.paging? = none) ∧
      Partwise e.filterGroups (fun _ => True) ∧
      (∀ g glue, e.filterGroups [g] glue = e.filterParams g.params g.glue) ∧
      (∀ ps qs glue, Rearranged (ParamRearranged e) ps qs →
        BothOrNeither SameRows (e.filterParams ps glue) (e.filterParams qs glue)) ∧
      ∀ groups groups' glue, Rearranged (GroupRearranged e) groups groups' →
        BothOrNeither SameRows (e.filterGroups groups glue) (e.filterGroups groups' glue) := by
  intro e
  refine ⟨partwise_filterParams config overrides, partwise_filterGroups config overrides,
    filterGroups_singleton config overrides, ?_, ?_⟩
  · intro ps qs glue h
    have hgroup : GroupRearranged e ⟨ps, glue⟩ ⟨qs, glue⟩ := ⟨rfl, h⟩
    exact Engine.filterGroup_rearranged hgroup
  · intro groups groups' glue h
    exact Engine.filterGroups_rearranged h glue

/-- The groups change places, and so do the parameters of one and those of its subquery. -/
theorem memory_builds_part_by_part_rearranged :
    let e := memoryEngine {} {}
    let one := Param.withCode "b" "eq" (.integer 1)
    let two := Param.withCode "b" "eq" (.integer 2)
    let inside := fun ps => Param.withCode "a" "nst:in" (.group ⟨ps, .or⟩)
    let isOne : Predicate := .condition (.compare "b" .equal (.long 1))
    let isTwo : Predicate := .condition (.compare "b" .equal (.long 2))
    let isInside := fun ms => Predicate.nested "a" (.member false) (.any ms)
    let m := Predicate.any [.all [isOne, isInside [isOne, isTwo]], isTwo]
    let n := Predicate.any [isTwo, .all [isInside [isTwo, isOne], isOne]]
    e.filterGroups [⟨[one, inside [one, two]], .and⟩, ⟨[two], .or⟩] .or = .ok m ∧
      e.filterGroups [⟨[two], .or⟩, ⟨[inside [two, one], one], .and⟩] .or = .ok n ∧
      SameRows m n := by
  intro e one two inside isOne isTwo isInside m n
  have hinside : ParamRearranged e (inside [one, two]) (inside [two, one]) :=
    .inside rfl (show Config.stripMarker? {} "nst:in" = some "in" from rfl) (.swap two one [])
      (.cons (.refl two) (.cons (.refl one) .nil))
  have hfirst : GroupRearranged e ⟨[one, inside [one, two]], .and⟩
      ⟨[inside [two, one], one], .and⟩ :=
    ⟨rfl, _, .swap _ one [], .cons hinside (.cons (.refl one) .nil)⟩
  have hsecond : GroupRearranged e ⟨[two], .or⟩ ⟨[two], .or⟩ :=
    ⟨rfl, _, .refl _, .cons (.refl two) .nil⟩
  have halike := (memory_builds_part_by_part {} {}).2.2.2.2 _ _ .or
    ⟨_, .swap _ _ [], .cons hsecond (.cons hfirst .nil)⟩
  have hm : e.filterGroups [⟨[one, inside [one, two]], .and⟩, ⟨[two], .or⟩] .or = .ok m := by
    unfold e inside one two m isInside isOne isTwo
    rfl
  have hn : e.filterGroups [⟨[two], .or⟩, ⟨[inside [two, one], one], .and⟩] .or = .ok n := by
    unfold e inside one two n isInside isOne isTwo
    rfl
  exact ⟨hm, hn, halike.of_eq_ok hm hn⟩

end FilterQuery
