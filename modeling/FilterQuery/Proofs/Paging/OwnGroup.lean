import FilterQuery.Proofs.Engine.Composition
import FilterQuery.Proofs.Paging.Precedence

/-!
# Paging parameters in a group of their own

Inside a group, paging parameters leave no trace in the filter. A group that has nothing else is
different: no fragment asks for nothing, so the group is planned as a filter that every row fulfils,
and that filter is joined with those of the other groups. Under an outer `and` it changes nothing.
Under an outer `or` the request now matches every row, whatever its other groups ask for
(`plan_insert_paging`).

Either way the request is still planned if the paging values are valid. For this it is enough that
the specification of the sort order resolves, before and in the new group: the one that counts
afterwards is one of the two (`Resolves.insert`).
-/

namespace FilterQuery

/-- A paging parameter with a value that can be used. -/
inductive Param.ValidPaging (allowed : List String) (p : Param) : Prop
  | limit {n : Nat} : p.paging? = some .limit → PageAttribute.number .limit p.value = .ok n →
    n ≤ Numeral.limitMax → ValidPaging allowed p
  | offset {n : Nat} : p.paging? = some .offset → PageAttribute.number .offset p.value = .ok n →
    ValidPaging allowed p
  | sortBy {keys : List SortKey} : p.paging? = some .sortBy →
    SortSpecification.resolve allowed (p.value.map ParamValue.raw) = .ok keys →
    ValidPaging allowed p

theorem Param.ValidPaging.paging_ne_none {allowed : List String} {p : Param}
    (h : p.ValidPaging allowed) : p.paging? ≠ none := by
  rintro hp
  cases h with
  | limit hcode => cases hp.symm.trans hcode
  | offset hcode => cases hp.symm.trans hcode
  | sortBy hcode => cases hp.symm.trans hcode

/-! ### The page -/

namespace PageAttribute

/-- The sort order that is asked for can be used. -/
def Resolves (allowed : List String) (a : Option PageAttribute) : Prop :=
  ∃ keys, SortSpecification.resolve allowed (a.getD {}).sortBy = .ok keys

variable {allowed : List String}

theorem resolves_none : Resolves allowed none :=
  ⟨[], rfl⟩

theorem addParam_of_valid {a : Option PageAttribute} {p : Param} (ha : Resolves allowed a)
    (hp : p.ValidPaging allowed) : ∃ b, addParam a p = .ok b ∧ Resolves allowed b := by
  cases hp with
  | @limit n hcode hnumber hlimit =>
    exact ⟨_, addParam_of_takes hcode ⟨n, number_eq_ok.mp hnumber, hlimit⟩, ha⟩
  | @offset n hcode hnumber =>
    exact ⟨_, addParam_of_takes hcode ⟨n, number_eq_ok.mp hnumber⟩, ha⟩
  | sortBy hcode hkeys => exact ⟨_, addParam_of_takes hcode trivial, _, hkeys⟩

theorem ofParams_of_valid {ps : List Param} (hps : ∀ p ∈ ps, p.ValidPaging allowed) :
    ∃ a, ofParams ps = .ok a ∧ Resolves allowed a :=
  foldlM_preserves (fun p hp _ ha => addParam_of_valid ha (hps p hp)) resolves_none

theorem sortBy_merge (a b : Option PageAttribute) :
    ((merge a b).getD {}).sortBy = (a.getD {}).sortBy.or (b.getD {}).sortBy :=
  PageField.sortBy.get_merge a b

/-- What is asked for in addition, in whatever place, may be asked for if it can be used. -/
theorem Resolves.insert {a b c : Option PageAttribute} (h : Resolves allowed (merge a c))
    (hb : Resolves allowed b) : Resolves allowed (merge a (merge b c)) := by
  unfold Resolves at *
  rw [sortBy_merge] at h
  rw [sortBy_merge, sortBy_merge]
  -- the first specification counts
  cases hnew : (b.getD {}).sortBy with
  | none => exact h
  | some spec =>
    cases hold : (a.getD {}).sortBy with
    | none =>
      rw [hnew] at hb
      exact hb
    | some old =>
      rw [hold] at h
      exact h

theorem ofGroups_insert {before after : List Group} {g : Group} {old new : Option PageAttribute}
    (hold : ofGroups (before ++ after) = .ok old) (hnew : ofParams g.params = .ok new) :
    ∃ a c, old = merge a c ∧ ofGroups (before ++ g :: after) = .ok (merge a (merge new c)) := by
  rw [ofGroups_eq] at hold
  obtain ⟨as, has, rfl⟩ := map_eq_ok.mp hold
  obtain ⟨bs, cs, hbs, hcs, rfl⟩ := mapM_append_eq_ok.mp has
  refine ⟨mergeAll bs, mergeAll cs, mergeAll_append bs cs, ?_⟩
  rw [ofGroups_eq, ← mergeAll_cons, ← mergeAll_append]
  have hafter : (g :: after).mapM (fun g => ofParams g.params) = .ok (new :: cs) :=
    mapM_cons_eq_ok.mpr ⟨new, cs, hnew, hcs, rfl⟩
  exact map_eq_ok.mpr ⟨_, mapM_append_eq_ok.mpr ⟨bs, _, hbs, hafter, rfl⟩, rfl⟩

end PageAttribute

open PageAttribute (Resolves)

theorem Page.resolve_eq_ok {config : Config} {allowed : List String}
    {wanted : Option PageAttribute} :
    (∃ page, resolve config allowed wanted = .ok page) ↔ Resolves allowed wanted := by
  unfold resolve Resolves
  simp [bind_eq_ok]

/-- A request whose page resolves has a page with more paging parameters, too. -/
theorem Page.ofGrouped_insert {config : Config} {allowed : List String}
    {before after : List Group} {g : Group} (hg : ∀ p ∈ g.params, p.ValidPaging allowed)
    {glue : Glue} {wanted : Option PageAttribute} {page : Page}
    (hpage : ofGrouped config allowed ⟨before ++ after, glue, wanted⟩ = .ok page) :
    ∃ page', ofGrouped config allowed ⟨before ++ g :: after, glue, wanted⟩ = .ok page' := by
  obtain ⟨old, hold, hpage⟩ := bind_eq_ok.mp hpage
  obtain ⟨new, hnew, hresolves⟩ := PageAttribute.ofParams_of_valid hg
  obtain ⟨a, c, rfl, hgroups⟩ := PageAttribute.ofGroups_insert hold hnew
  have hwanted := Page.resolve_eq_ok.mp ⟨page, hpage⟩
  rw [← PageAttribute.merge_assoc] at hwanted
  have hwanted' := hwanted.insert hresolves
  rw [PageAttribute.merge_assoc] at hwanted'
  obtain ⟨page', hpage'⟩ := Page.resolve_eq_ok.mpr hwanted'
  exact ⟨page', bind_eq_ok.mpr ⟨_, hgroups, hpage'⟩⟩

/-! ### The filter -/

/-- A group of paging parameters asks for nothing. -/
theorem Engine.filterGroup_of_paging {F : Type} (e : Engine F) {g : Group}
    (hg : ∀ p ∈ g.params, p.paging? ≠ none) : e.filterGroup g = .ok e.backend.everything := by
  unfold Engine.filterGroup
  rw [Engine.planGroup_eq]
  have hparam : ∀ p ∈ g.params, e.planParam (e.inside e.config.maxNestingDepth) p = .ok none :=
    fun p hp => Engine.planParam_of_paging (hg p hp)
  obtain ⟨fs, hfs⟩ := exists_mapM_eq_ok.mpr fun p hp => ⟨none, hparam p hp⟩
  have hnone : fs.filterMap id = [] := by
    rw [List.filterMap_eq_nil_iff]
    intro f hf
    obtain ⟨p, hp, h⟩ := (mem_mapM hfs).mp hf
    exact (Except.ok.inj ((hparam p hp).symm.trans h)).symm
  refine Engine.planParams_eq_ok.mpr ⟨fs, hfs, ?_⟩
  rw [hnone]
  rfl

theorem Glue.join_and (bs : List Bool) : Glue.and.join bs = bs.all id := by
  cases bs <;> rfl

theorem Glue.join_insert_true (glue : Glue) (bs cs : List Bool) :
    glue.join (bs ++ true :: cs) = true ↔ glue = .or ∨ glue.join (bs ++ cs) = true := by
  cases glue with
  | and => simp [Glue.join_and]
  | or => simp [Glue.join_eq_true]

open Memory (Predicate)

/-- **A group of paging parameters alone is planned, and under an outer `or` every row matches from
then on.** Under an outer `and` the same rows match as without it. -/
theorem plan_insert_paging (config : Config) (overrides : Overrides Predicate)
    (allowed : List String) (before after : List Group) (glue : Glue)
    (wanted : Option PageAttribute) {g : Group} (hg : ∀ p ∈ g.params, p.ValidPaging allowed)
    {plan : Plan Predicate}
    (hplan : (memoryEngine config overrides).planGrouped allowed
      ⟨before ++ after, glue, wanted⟩ = .ok plan) :
    ∃ plan', (memoryEngine config overrides).planGrouped allowed
        ⟨before ++ g :: after, glue, wanted⟩ = .ok plan' ∧
      ∀ rows row, plan'.filter.holds rows row = true ↔
        glue = .or ∨ plan.filter.holds rows row = true := by
  rw [Engine.planGrouped_eq] at hplan
  obtain ⟨f, hf, hplan⟩ := bind_eq_ok.mp hplan
  obtain ⟨page, hpage, rfl⟩ := map_eq_ok.mp hplan
  obtain ⟨fs, hfs, rfl⟩ := Engine.filterGroups_eq_ok.mp hf
  obtain ⟨bs, cs, hbs, hcs, rfl⟩ := mapM_append_eq_ok.mp hfs
  obtain ⟨page', hpage'⟩ := Page.ofGrouped_insert hg hpage
  have hown := (memoryEngine config overrides).filterGroup_of_paging
    fun p hp => (hg p hp).paging_ne_none
  have hafter := mapM_cons_eq_ok.mpr ⟨_, cs, hown, hcs, rfl⟩
  have hgroups := mapM_append_eq_ok.mpr ⟨bs, _, hbs, hafter, rfl⟩
  have hfilter : (memoryEngine config overrides).filterGroups (before ++ g :: after) glue = .ok _ :=
    Engine.filterGroups_eq_ok.mpr ⟨_, hgroups, rfl⟩
  refine ⟨_, bind_eq_ok.mpr ⟨_, hfilter, map_eq_ok.mpr ⟨page', hpage', rfl⟩⟩, ?_⟩
  intro rows row
  show (Predicate.backend.combine glue _).holds rows row = true ↔
    glue = .or ∨ (Predicate.backend.combine glue _).holds rows row = true
  rw [Memory.holds_combine, Memory.holds_combine, List.map_append, List.map_append, List.map_cons]
  exact glue.join_insert_true _ _

/-- A row with `a = 2` is not asked for, but matches as soon as the limit has a group of its own. -/
theorem plan_insert_paging_under_or :
    let e := memoryEngine {} {}
    let one : Group := ⟨[Param.equals "a" (.integer 1)], .and⟩
    let limit : Group := ⟨[Param.withCode "" "limit" (.integer 5)], .and⟩
    let row : Json := .object [("a", .integer 2)]
    ∃ plan plan', e.planGrouped [] ⟨[one], .or, none⟩ = .ok plan ∧
      e.planGrouped [] ⟨[one, limit], .or, none⟩ = .ok plan' ∧
      plan.filter.holds [row] row = false ∧ plan'.filter.holds [row] row = true := by
  intro e one limit row
  have hlimit : ∀ p ∈ limit.params, p.ValidPaging [] := by
    intro p hp
    obtain rfl := List.mem_singleton.mp hp
    exact .limit rfl rfl (by decide)
  have hone : e.planGrouped [] ⟨[one] ++ [], .or, none⟩ =
      .ok ⟨.condition (.compare "a" .equal (.long 1)), 0, 200, []⟩ := by
    unfold e one
    rfl
  obtain ⟨plan', hplan', hholds⟩ := plan_insert_paging {} {} [] [one] [] .or none hlimit hone
  exact ⟨_, plan', hone, hplan', rfl, (hholds [row] row).mpr (.inl rfl)⟩

end FilterQuery
