import FilterQuery.Paging
import FilterQuery.Proofs.Engine.Requests

/-!
# What parameters say about the page

Only paging parameters say anything about the page (`ofParams_pagingOf`), and groups say what their
lists say one by one, the earlier before the later (`ofGroups_eq`). So the page of a request depends
on its page attribute and on the paging parameters of its lists, and a list without any may come or
go (`ofGroups_toGrouped`).
-/

namespace FilterQuery

/-- A fold that fails only in what it takes from each element takes it from all, and then folds. -/
theorem foldlM_eq_mapM {ε α β γ : Type} (f : β → γ → β) (g : α → Except ε γ) (xs : List α)
    (b : β) :
    xs.foldlM (fun b x => do Except.ok (f b (← g x))) b =
      (xs.mapM g).map fun cs => cs.foldl f b := by
  induction xs generalizing b with
  | nil => rfl
  | cons x xs ih =>
    rw [List.foldlM_cons, List.mapM_cons]
    cases g x with
    | error e => rfl
    | ok c =>
      show xs.foldlM _ (f b c) = _
      rw [ih]
      cases xs.mapM g <;> rfl

/-- A fold that fails where its elements do on their own fails with the first of these errors. -/
theorem foldlM_eq_error {ε α β γ : Type} {f : β → α → Except ε β} {g : α → Except ε γ}
    (hfg : ∀ b x e, f b x = .error e ↔ g x = .error e) {xs : List α} {b : β} {e : ε} :
    xs.foldlM f b = .error e ↔ xs.mapM g = .error e := by
  induction xs generalizing b with
  | nil => exact iff_of_false (fun h => nomatch h) (fun h => nomatch h)
  | cons x xs ih =>
    rw [List.foldlM_cons, bind_eq_error, mapM_cons_eq_error, hfg]
    simp only [ih, exists_and_right]
    rw [exists_eq_ok_iff (hfg b x)]

/-- A fold whose steps succeed and keep an invariant succeeds and keeps it. -/
theorem foldlM_preserves {ε α β : Type} {f : β → α → Except ε β} {P : β → Prop} {xs : List α}
    (hstep : ∀ x ∈ xs, ∀ b, P b → ∃ c, f b x = .ok c ∧ P c) {b : β} (hb : P b) :
    ∃ c, xs.foldlM f b = .ok c ∧ P c := by
  induction xs generalizing b with
  | nil => exact ⟨b, rfl, hb⟩
  | cons x xs ih =>
    obtain ⟨c, hc, hPc⟩ := hstep x (by simp) b hb
    obtain ⟨d, hd, hPd⟩ := ih (fun y hy => hstep y (by simp [hy])) hPc
    refine ⟨d, ?_, hPd⟩
    rw [List.foldlM_cons, hc]
    exact hd

/-- The paging parameters of a list. -/
def pagingOf (ps : List Param) : List Param :=
  ps.filter fun p => p.paging?.isSome

namespace PageAttribute

theorem addParam_of_not_paging {a : Option PageAttribute} {p : Param} (hp : p.paging? = none) :
    addParam a p = .ok a := by
  rw [addParam, hp]

/-- **The other parameters say nothing about the page.** -/
theorem ofParams_pagingOf (ps : List Param) : ofParams (pagingOf ps) = ofParams ps := by
  unfold ofParams pagingOf
  rw [List.foldlM_filter]
  congr 1
  funext a p
  cases hp : p.paging? with
  | some _ => rfl
  | none => exact (addParam_of_not_paging hp).symm

/-! ### Groups -/

theorem merge_none_right (a : Option PageAttribute) : merge a none = a := by
  cases a <;> rfl

theorem merge_assoc (a b c : Option PageAttribute) :
    merge (merge a b) c = merge a (merge b c) := by
  cases a <;> cases b <;> cases c <;> simp [merge, PageAttribute.or, Option.or_assoc]

/-- The attributes put together, where earlier ones go before later ones. -/
def mergeAll (as : List (Option PageAttribute)) : Option PageAttribute :=
  as.foldl merge none

theorem foldl_merge (a : Option PageAttribute) (as : List (Option PageAttribute)) :
    as.foldl merge a = merge a (mergeAll as) := by
  unfold mergeAll
  induction as generalizing a with
  | nil => exact (merge_none_right a).symm
  | cons b as ih => rw [List.foldl_cons, List.foldl_cons, ih, ih (merge none b), merge_none_left,
      merge_assoc]

theorem mergeAll_cons (a : Option PageAttribute) (as : List (Option PageAttribute)) :
    mergeAll (a :: as) = merge a (mergeAll as) := by
  show as.foldl merge (merge none a) = _
  rw [merge_none_left, foldl_merge]

theorem mergeAll_append (as bs : List (Option PageAttribute)) :
    mergeAll (as ++ bs) = merge (mergeAll as) (mergeAll bs) := by
  unfold mergeAll
  rw [List.foldl_append, foldl_merge]
  rfl

theorem ofGroups_eq (groups : List Group) :
    ofGroups groups = (groups.mapM fun g => ofParams g.params).map mergeAll :=
  foldlM_eq_mapM merge (fun g : Group => ofParams g.params) groups none

/-- What lists of paging parameters say about the page. -/
def ofLists (lists : List (List Param)) : Except FilterError (Option PageAttribute) :=
  (lists.mapM ofParams).map mergeAll

/-- A list without paging parameters may come or go. -/
theorem ofLists_filter (lists : List (List Param)) :
    ofLists (lists.filter (· ≠ [])) = ofLists lists := by
  unfold ofLists
  induction lists with
  | nil => rfl
  | cons ps lists ih =>
    rw [mapM_cons_map ofParams mergeAll_cons]
    by_cases hps : ps = []
    · subst hps
      rw [List.filter_cons_of_neg (by simp), ih]
      show _ = ((lists.mapM ofParams).map mergeAll).map (merge none)
      cases lists.mapM ofParams with
      | error e => rfl
      | ok as => exact congrArg Except.ok (merge_none_left _).symm
    · rw [List.filter_cons_of_pos (by simpa using hps), mapM_cons_map ofParams mergeAll_cons, ih]

end PageAttribute

/-- The paging parameters of each list of the request, for the lists that have any. -/
def Request.pagingLists (r : Request) : List (List Param) :=
  (r.toGrouped.groups.map fun g => pagingOf g.params).filter (· ≠ [])

namespace PageAttribute

/-- **The paging parameters alone say what the page is.** -/
theorem ofGroups_toGrouped (r : Request) :
    ofGroups r.toGrouped.groups = ofLists r.pagingLists := by
  unfold Request.pagingLists
  rw [ofLists_filter, ofGroups_eq, ofLists]
  congr 1
  rw [List.mapM_map]
  congr 1
  funext g
  exact (ofParams_pagingOf g.params).symm

end PageAttribute

end FilterQuery
