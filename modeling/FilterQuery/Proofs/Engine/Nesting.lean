import FilterQuery.Proofs.Engine.Depth
import FilterQuery.Proofs.Engine.Refusal

/-!
# The limit of nesting

The limit cuts exactly at the depth of a request (`nesting_guard_cuts_at_limit`):

* what is planned is within the limit (`nestingDepth_le_of_planGroup`);
* where all is within the limit, a higher limit changes nothing (`planGroup_withLimit`);
* what a higher limit allows is refused for its depth or for nothing
  (`tooDeep_of_planGroup_withLimit`).

In each the induction is on the levels that are left, and goes down where a nested parameter does.
-/

namespace FilterQuery

open Memory (Predicate)

namespace Engine

variable {F : Type}

/-! ### Planning and depth -/

/-- The parameters inside are those of the group that the parameter is planned with. -/
theorem inner?_eq_some {e : Engine F} {p : Param} {ps : List Param} (h : e.inner? p = some ps) :
    p.paging? = none ∧ e.overrides.get? p.name = none ∧
      ∃ code, e.config.stripMarker? p.code = some code ∧
        ∀ operation group, NestedOperation.ofCode code = .ok operation →
          nestedGroup operation p = .ok group → ps = group.params := by
  unfold inner? at h
  split at h
  · cases h
  · next hnested =>
    obtain ⟨hpaging, hoverride⟩ := not_or.mp hnested
    obtain ⟨code, hcode, rfl⟩ := Option.map_eq_some_iff.mp h
    refine ⟨by simpa using hpaging, by simpa using hoverride, code, hcode, ?_⟩
    intro operation group hoperation hgroup
    have hinner : (NestedOperation.ofCode code >>= (nestedGroup · p)) = .ok group :=
      bind_eq_ok.mpr ⟨operation, hoperation, hgroup⟩
    rw [hinner]

/-- A nested parameter that is planned has a level left for the group inside. -/
theorem exists_level_of_planParam {e : Engine F} {levels : Nat} {p : Param} {ps : List Param}
    (hinner : e.inner? p = some ps) {x : Option F}
    (h : e.planParam (e.inside levels) p = .ok x) :
    ∃ n code operation group subquery f, levels = n + 1 ∧
      e.config.stripMarker? p.code = some code ∧ NestedOperation.ofCode code = .ok operation ∧
      nestedGroup operation p = .ok group ∧ ps = group.params ∧
      e.planGroup n group = .ok subquery ∧ e.backend.nested p.name operation subquery = .ok f := by
  obtain ⟨hpaging, hoverride, code, hcode, hps⟩ := inner?_eq_some hinner
  rw [planParam_of_nested hpaging hoverride hcode] at h
  obtain ⟨f, hnested, -⟩ := map_eq_ok.mp h
  obtain ⟨operation, inner, group, subquery, hoperation, hlevel, hgroup, hsubquery, hf⟩ :=
    planNested_eq_ok.mp hnested
  cases levels with
  | zero => cases hlevel
  | succ n =>
    cases hlevel
    exact ⟨n, code, operation, group, subquery, f, rfl, hcode, hoperation, hgroup,
      hps operation group hoperation hgroup, hsubquery, hf⟩

/-- **What is planned is within the levels that are left.** -/
theorem nestingDepth_le_of_planGroup {e : Engine F} {levels : Nat} {g : Group} {f : F}
    (h : e.planGroup levels g = .ok f) : ∀ p ∈ g.params, e.nestingDepth p ≤ levels := by
  induction levels using Nat.strongRecOn generalizing g f with
  | ind levels ih =>
    intro p hp
    rw [planGroup_eq] at h
    obtain ⟨fs, hfs, -⟩ := planParams_eq_ok.mp h
    obtain ⟨x, hx⟩ := exists_mapM_eq_ok.mp ⟨fs, hfs⟩ p hp
    cases hinner : e.inner? p with
    | none =>
      rw [nestingDepth_of_none hinner]
      exact Nat.zero_le levels
    | some ps =>
      obtain ⟨n, _, _, group, _, _, rfl, -, -, -, rfl, hsubquery, -⟩ :=
        exists_level_of_planParam hinner hx
      apply (nestingDepth_le_succ hinner).mpr
      exact ih n (Nat.lt_succ_self n) hsubquery

/-! ### Two limits -/

/-- The engine with another limit. -/
def withLimit (e : Engine F) (limit : Nat) : Engine F :=
  { e with config := { e.config with maxNestingDepth := limit } }

variable (e : Engine F) {limit limit' : Nat}

/-- Planning does not go into a parameter without an inside. -/
theorem planParam_withLimit_of_none {p : Param} (h : e.inner? p = none)
    (plan plan' : Option (Group → Except FilterError F)) :
    (e.withLimit limit).planParam plan p = (e.withLimit limit').planParam plan' p := by
  unfold inner? at h
  unfold planParam
  split at h
  · next hor =>
    rcases hor with hpaging | hoverride
    · rw [if_pos hpaging, if_pos hpaging]
    · obtain ⟨override, hoverride⟩ := Option.isSome_iff_exists.mp hoverride
      have hoverride' (limit : Nat) :
          (e.withLimit limit).overrides.get? p.name = some override := hoverride
      rw [hoverride', hoverride']
  · have hcode (limit : Nat) : (e.withLimit limit).config.stripMarker? p.code = none :=
      Option.map_eq_none_iff.mp h
    rw [hcode, hcode]
    rfl

theorem planParam_withLimit_of_nested {p : Param} (hpaging : p.paging? = none)
    (hoverride : e.overrides.get? p.name = none) {code : String}
    (hcode : e.config.stripMarker? p.code = some code) (limit : Nat)
    (plan : Option (Group → Except FilterError F)) :
    (e.withLimit limit).planParam plan p =
      ((e.withLimit limit).planNested plan p code).map some :=
  planParam_of_nested (e := e.withLimit limit) hpaging hoverride hcode

/-- Nested parameters are planned alike if the groups inside are, whatever the limits. -/
theorem planNested_withLimit {plan plan' : Group → Except FilterError F} {p : Param}
    {code : String}
    (h : ∀ operation group, NestedOperation.ofCode code = .ok operation →
      nestedGroup operation p = .ok group → plan group = plan' group) :
    (e.withLimit limit).planNested (some plan) p code =
      (e.withLimit limit').planNested (some plan') p code := by
  unfold planNested
  cases hoperation : NestedOperation.ofCode code with
  | error error => rfl
  | ok operation =>
    show (nestedGroup operation p >>= _) = nestedGroup operation p >>= _
    cases hgroup : nestedGroup operation p with
    | error error => rfl
    | ok group =>
      show (plan group >>= _) = plan' group >>= _
      rw [h operation group hoperation hgroup]
      rfl

theorem planParams_withLimit {plan plan' : Option (Group → Except FilterError F)} {g : Group}
    (h : ∀ p ∈ g.params,
      (e.withLimit limit).planParam plan p = (e.withLimit limit').planParam plan' p) :
    (e.withLimit limit).planParams plan g = (e.withLimit limit').planParams plan' g := by
  unfold planParams
  rw [mapM_congr h]
  rfl

/-- **Where all is within a limit, a higher limit changes nothing.** -/
theorem planGroup_withLimit {levels levels' : Nat} (hlevels : levels ≤ levels') {g : Group}
    (h : ∀ p ∈ g.params, e.nestingDepth p ≤ levels) :
    (e.withLimit limit).planGroup levels g = (e.withLimit limit').planGroup levels' g := by
  induction levels using Nat.strongRecOn generalizing levels' g with
  | ind levels ih =>
    rw [planGroup_eq, planGroup_eq]
    apply planParams_withLimit
    intro p hp
    cases hinner : e.inner? p with
    | none => exact planParam_withLimit_of_none e hinner _ _
    | some ps =>
      have hdepth := h p hp
      have hpos : 0 < levels := Nat.lt_of_lt_of_le (nestingDepth_pos hinner) hdepth
      obtain ⟨n, rfl⟩ : ∃ n, levels = n + 1 := ⟨levels - 1, by omega⟩
      obtain ⟨n', rfl⟩ : ∃ n', levels' = n' + 1 := ⟨levels' - 1, by omega⟩
      obtain ⟨hpaging, hoverride, code, hcode, hps⟩ := inner?_eq_some hinner
      rw [planParam_withLimit_of_nested e hpaging hoverride hcode,
        planParam_withLimit_of_nested e hpaging hoverride hcode]
      congr 1
      apply planNested_withLimit
      intro operation group hoperation hgroup
      obtain rfl := hps operation group hoperation hgroup
      exact ih n (Nat.lt_succ_self n) (Nat.le_of_succ_le_succ hlevels)
        ((nestingDepth_le_succ hinner).mp hdepth)

/-- What planning comes upon inside a parameter is planned alone, too, with all levels left. -/
theorem exists_filterParams_of_reaches {e : Engine F} {p q : Param} (h : e.Reaches p q)
    (hp : ∃ f, e.filterParams [p] .and = .ok f) : ∃ f, e.filterParams [q] .and = .ok f := by
  induction h with
  | refl => exact hp
  | @inside q r qs _ hinner hr ih =>
    have hq : ∃ f, e.planGroup e.config.maxNestingDepth ⟨[q], .and⟩ = .ok f := ih
    obtain ⟨f, hf⟩ := hq
    rw [planGroup_eq] at hf
    obtain ⟨fs, hfs, -⟩ := planParams_eq_ok.mp hf
    obtain ⟨x, hx⟩ := exists_mapM_eq_ok.mp ⟨fs, hfs⟩ q (by simp)
    obtain ⟨n, _, _, group, subquery, _, hlevels, -, -, -, rfl, hsubquery, -⟩ :=
      exists_level_of_planParam hinner hx
    have halone : ∃ f, e.planGroup n ⟨[r], .and⟩ = .ok f := by
      rw [planGroup_eq] at hsubquery ⊢
      obtain ⟨fs, hfs, -⟩ := planParams_eq_ok.mp hsubquery
      obtain ⟨x, hx⟩ := exists_mapM_eq_ok.mp ⟨fs, hfs⟩ r hr
      exact ⟨_, planParams_eq_ok.mpr ⟨[x], mapM_cons_eq_ok.mpr ⟨x, [], hx, rfl, rfl⟩, rfl⟩⟩
    obtain ⟨f, hf⟩ := halone
    have hdepths := nestingDepth_le_of_planGroup hf
    have hn : n ≤ e.config.maxNestingDepth := by omega
    have hsame : e.planGroup n ⟨[r], .and⟩ = e.planGroup e.config.maxNestingDepth ⟨[r], .and⟩ :=
      planGroup_withLimit e hn hdepths
    exact ⟨f, hsame.symm.trans hf⟩

/-- All that planning a request comes upon is within a limit. -/
def WithinLimit (e : Engine F) (r : Request) (limit : Nat) : Prop :=
  ∀ p ∈ r.params, ∀ q, e.Reaches p q → e.nestingDepth q ≤ limit

variable {r : Request}

/-- What a request comes to under a limit, compared with a higher one. -/
structure CutsAt {α : Type} (e : Engine F) (r : Request) (limit : Nat)
    (lower higher : Except FilterError α) : Prop where
  /-- The lower limit allows what the higher one does of all within it, with the same result. -/
  eq_ok_iff (a : α) : lower = .ok a ↔ higher = .ok a ∧ e.WithinLimit r limit
  /-- What only the higher limit allows is refused for its depth. -/
  tooDeep (a : α) : higher = .ok a → ¬ e.WithinLimit r limit →
    lower = .error (.nestingTooDeep (limit + 1) limit)
  /-- That error carries the limit and the level after it, except where an override or the backend
  raises one of its own for a parameter that planning comes upon. -/
  error_eq (depth max : Nat) : lower = .error (.nestingTooDeep depth max) →
    (depth = limit + 1 ∧ max = limit) ∨
      ∃ p ∈ r.params, (e.withLimit limit).Raises p (.nestingTooDeep depth max)

/-- What comes after does not blur the cut if it never fails so. -/
theorem CutsAt.bind {e : Engine F} {α β : Type} {lower higher : Except FilterError α}
    (h : e.CutsAt r limit lower higher) {next : α → Except FilterError β}
    (hnext : ∀ a, NotTooDeep (next a)) : e.CutsAt r limit (lower >>= next) (higher >>= next) where
  eq_ok_iff b := by
    rw [bind_eq_ok, bind_eq_ok]
    constructor
    · rintro ⟨a, ha, hb⟩
      obtain ⟨ha, hwithin⟩ := (h.eq_ok_iff a).mp ha
      exact ⟨⟨a, ha, hb⟩, hwithin⟩
    · rintro ⟨⟨a, ha, hb⟩, hwithin⟩
      exact ⟨a, (h.eq_ok_iff a).mpr ⟨ha, hwithin⟩, hb⟩
  tooDeep b hb hdeep := by
    obtain ⟨a, ha, -⟩ := bind_eq_ok.mp hb
    rw [h.tooDeep a ha hdeep]
    rfl
  error_eq depth max hb := by
    rcases bind_eq_error.mp hb with ha | ⟨a, -, hb⟩
    · exact h.error_eq depth max ha
    · exact absurd hb (hnext a depth max)

end Engine

end FilterQuery
