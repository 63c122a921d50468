import FilterQuery.Proofs.Engine.Composition
import FilterQuery.Proofs.Paging.Attribute

/-!
# Filter and page come from different parts of a request

The filter does not see paging parameters, neither at the top nor in the groups inside: they may be
deleted at every depth (`withoutPaging`), and the filter, or the error in its place, stays the same
(`filter_withoutPaging`). An override looks at its parameters itself, so their groups are left
alone; one on the field of a paging parameter is never asked.

The page sees nothing but the page attribute and the paging parameters at the top. Both halves
together are `filter_and_page_are_separate`.
-/

namespace FilterQuery

/-- Elements without a result may be left out of a list. -/
theorem mapM_filter_of_none {ε α β : Type} {f : α → Except ε (Option β)} {keep : α → Bool}
    (h : ∀ x, keep x = false → f x = .ok none) (xs : List α) :
    ((xs.filter keep).mapM f).map (List.filterMap id) = (xs.mapM f).map (List.filterMap id) := by
  have hadd : ∀ b (bs : List (Option β)),
      (b :: bs).filterMap id = [b].filterMap id ++ bs.filterMap id :=
    fun b bs => List.filterMap_append (l := [b])
  induction xs with
  | nil => rfl
  | cons x xs ih =>
    rw [mapM_cons_map f hadd]
    cases hkeep : keep x with
    | true => rw [List.filter_cons_of_pos hkeep, mapM_cons_map f hadd, ih]
    | false =>
      rw [List.filter_cons_of_neg (by simp [hkeep]), ih, h x hkeep]
      show _ = ((xs.mapM f).map (List.filterMap id)).map fun bs => bs
      cases xs.mapM f <;> rfl

namespace Engine

variable {F : Type}

/-! ### Deleting paging parameters -/

/-- The parameter with its group made smaller, if it is a nested one that no override builds. -/
def shrinkParam (e : Engine F) (shrink : Group → Group) (p : Param) : Param :=
  match e.overrides.get? p.name, e.config.stripMarker? p.code, p.value.map ParamValue.asGroup with
  | none, some _, some (.ok group) => { p with value := some (.group (shrink group)) }
  | _, _, _ => p

/-- The group without its paging parameters, and with the groups inside made smaller. -/
def shrinkGroup (e : Engine F) (shrink : Group → Group) (g : Group) : Group :=
  ⟨(g.params.filter (·.paging?.isNone)).map (e.shrinkParam shrink), g.glue⟩

/-- The group without its paging parameters, and without those of the groups inside down to a
depth. -/
def withoutPaging (e : Engine F) : (depth : Nat) → Group → Group
  | 0 => e.shrinkGroup id
  | depth + 1 => e.shrinkGroup (e.withoutPaging depth)

/-- The request without paging parameters in its lists and in the groups inside. The lists and
groups stay, be they empty. -/
def requestWithoutPaging (e : Engine F) (depth : Nat) : Request → Request
  | .flat r => .flat { r with params := (e.withoutPaging depth ⟨r.params, r.glue⟩).params }
  | .grouped r => .grouped { r with groups := r.groups.map (e.withoutPaging depth) }

/-! ### The filter stays the same -/

variable {e : Engine F} {shrink : Group → Group} {plan : Option (Group → Except FilterError F)}

theorem planParam_shrink (hplan : ∀ inner ∈ plan, ∀ g, inner (shrink g) = inner g) (p : Param) :
    e.planParam plan (e.shrinkParam shrink p) = e.planParam plan p := by
  unfold shrinkParam
  split
  · next group hoverride hcode hvalue =>
    obtain ⟨v, hvalue, hgroup⟩ := Option.map_eq_some_iff.mp hvalue
    have hsame : ∀ inner ∈ plan, inner group = inner (shrink group) :=
      fun inner hinner => (hplan inner hinner group).symm
    by_cases hpaging : p.paging? = none
    · rw [planParam_of_nested hpaging hoverride hcode,
        planParam_of_nested (p := { p with value := _ }) hpaging hoverride hcode,
        planNested_congr hvalue hgroup rfl hsame]
    · rw [planParam_of_paging hpaging, planParam_of_paging (p := { p with value := _ }) hpaging]
  · rfl

theorem planParams_shrink (hplan : ∀ inner ∈ plan, ∀ g, inner (shrink g) = inner g) (g : Group) :
    e.planParams plan (e.shrinkGroup shrink g) = e.planParams plan g := by
  have heach : (fun p => e.planParam plan (e.shrinkParam shrink p)) = e.planParam plan :=
    funext fun p => planParam_shrink hplan p
  have hpaging : ∀ p : Param, p.paging?.isNone = false → e.planParam plan p = .ok none :=
    fun p hp => planParam_of_paging (by rintro h; simp [h] at hp)
  have hlists : ((e.shrinkGroup shrink g).params.mapM (e.planParam plan)).map (List.filterMap id) =
      (g.params.mapM (e.planParam plan)).map (List.filterMap id) := by
    rw [shrinkGroup, List.mapM_map]
    show (List.mapM (fun p => e.planParam plan (e.shrinkParam shrink p)) _).map _ = _
    rw [heach, mapM_filter_of_none hpaging]
  rw [planParams_eq_map, planParams_eq_map, hlists]
  rfl

theorem planGroup_withoutPaging (depth levels : Nat) (g : Group) :
    e.planGroup levels (e.withoutPaging depth g) = e.planGroup levels g := by
  induction depth generalizing levels g with
  | zero =>
    rw [planGroup_eq, planGroup_eq]
    exact planParams_shrink (fun _ _ _ => rfl) g
  | succ depth ih =>
    rw [planGroup_eq, planGroup_eq]
    apply planParams_shrink
    intro inner hinner h
    cases levels with
    | zero => cases hinner
    | succ levels =>
      obtain rfl : e.planGroup levels = inner := Option.some.inj hinner
      exact ih levels h

/-- **The filter does not see paging parameters.** -/
theorem filter_withoutPaging (e : Engine F) (depth : Nat) (r : Request) :
    e.filter (e.requestWithoutPaging depth r) = e.filter r := by
  have hgroup : ∀ g, e.filterGroup (e.withoutPaging depth g) = e.filterGroup g :=
    fun g => planGroup_withoutPaging depth e.config.maxNestingDepth g
  cases r with
  | flat r =>
    have hglue : e.withoutPaging depth ⟨r.params, r.glue⟩ =
        ⟨(e.withoutPaging depth ⟨r.params, r.glue⟩).params, r.glue⟩ := by
      cases depth <;> rfl
    show e.filterGroup ⟨(e.withoutPaging depth ⟨r.params, r.glue⟩).params, r.glue⟩ =
      e.filterGroup ⟨r.params, r.glue⟩
    rw [← hglue, hgroup]
  | grouped r =>
    show e.filterGroups (r.groups.map (e.withoutPaging depth)) r.glue =
      e.filterGroups r.groups r.glue
    unfold filterGroups
    rw [List.mapM_map]
    show (r.groups.mapM fun g => e.filterGroup (e.withoutPaging depth g)) >>= _ = _
    rw [funext hgroup]

/-! ### The page stays the same -/

/-- **The page sees the page attribute and the paging parameters at the top, and nothing else.** -/
theorem page_eq_of_pagingLists (config : Config) (allowed : List String) {r r' : Request}
    (hpage : r.page = r'.page) (hlists : r.pagingLists = r'.pagingLists) :
    Page.ofGrouped config allowed r.toGrouped = Page.ofGrouped config allowed r'.toGrouped := by
  have hattribute : r.toGrouped.page = r'.toGrouped.page := hpage
  unfold Page.ofGrouped
  rw [PageAttribute.ofGroups_toGrouped, PageAttribute.ofGroups_toGrouped, hlists, hattribute]

end Engine

/-- **Filter and page come from different parts of a request.** Deleting paging parameters at any
depth leaves the filter, or the error in its place, as it is. And requests with filters have one
page, or one error in its place, if they agree in the page attribute and in the paging parameters at
the top, list by list but for the lists without any. -/
theorem filter_and_page_are_separate {F : Type} (e : Engine F) (allowed : List String) :
    (∀ depth r, e.filter (e.requestWithoutPaging depth r) = e.filter r) ∧
      ∀ r r' : Request, (∃ f, e.filter r = .ok f) → (∃ f, e.filter r' = .ok f) →
        r.page = r'.page → r.pagingLists = r'.pagingLists →
          (e.plan allowed r).map (·.page) = (e.plan allowed r').map (·.page) := by
  refine ⟨e.filter_withoutPaging, ?_⟩
  rintro r r' ⟨f, hf⟩ ⟨f', hf'⟩ hpage hlists
  rw [Engine.plan_page hf, Engine.plan_page hf',
    Engine.page_eq_of_pagingLists e.config allowed hpage hlists]

/-- An override on the field `limit` is not asked about the limit, and an offset inside a subquery
is not one of the request. -/
theorem filter_and_page_are_separate_beside_override :
    let never : Override Memory.Predicate := ⟨"limit", fun _ => .ok (.condition .nothing)⟩
    let e : Engine Memory.Predicate :=
      { backend := Memory.Predicate.backend, overrides := ⟨[never], by simp⟩ }
    let limit := Param.withCode "limit" "limit" (.integer 5)
    let offset := Param.withCode "b" "offset" (.integer 1)
    let one := Param.equals "b" (.integer 1)
    let inside := fun ps => Param.withCode "a" "nst:in" (.group ⟨ps, .or⟩)
    let r : Request := .grouped ⟨[⟨[one], .or⟩, ⟨[limit, inside [offset, one]], .and⟩], .or, none⟩
    let r' : Request := .flat ⟨[one, limit], .or, none⟩
    e.filter (.grouped ⟨[⟨[one], .or⟩, ⟨[inside [one]], .and⟩], .or, none⟩) = e.filter r ∧
      (e.plan [] r).map (·.page) = (e.plan [] r').map (·.page) := by
  intro never e limit offset one inside r r'
  have hseparate := filter_and_page_are_separate e []
  have hfirst : ∃ f, e.filter r = .ok f := by
    unfold r limit inside offset one e never
    exact ⟨_, rfl⟩
  have hsecond : ∃ f, e.filter r' = .ok f := by
    unfold r' limit one e never
    exact ⟨_, rfl⟩
  have hlists : r.pagingLists = r'.pagingLists := by
    unfold r r' limit inside offset one
    rfl
  have hdeleted : e.requestWithoutPaging 1 r =
      .grouped ⟨[⟨[one], .or⟩, ⟨[inside [one]], .and⟩], .or, none⟩ := by
    unfold r limit inside offset one e never
    rfl
  exact ⟨hdeleted ▸ hseparate.1 1 r, hseparate.2 r r' hfirst hsecond rfl hlists⟩

end FilterQuery
