import FilterQuery.Proofs.Memory.Pages
import Mathlib.Data.List.FinRange

/-!
# The order of the rows does not matter to a filter

A filter looks through the collection where it has subqueries, and of what they select it asks
whether some value equals another, or whether there is one value and no second
(`holdsOfSelected_perm`). Neither depends on the order of the rows. So a row fulfils the same
filters, planned from a request or not, in every order of the collection and to any depth of
subqueries (`holds_perm`), and a query without sort keys finds the same rows
(`shuffling_keeps_matches`).
-/

namespace FilterQuery.Memory

theorem holdsOfSelected_perm (operation : NestedOperation) (outer : Json)
    {selected selected' : List Json} (h : selected.Perm selected') :
    holdsOfSelected operation outer selected = holdsOfSelected operation outer selected' := by
  cases operation with
  | isNull => rfl
  | member negated =>
    simp only [holdsOfSelected]
    rw [h.any_eq]
  | compare c =>
    -- one selected value has no other order, and with none or several nothing holds
    match selected with
    | [value] =>
      obtain rfl := List.singleton_perm.mp h
      rfl
    | [] =>
      obtain rfl := List.nil_perm.mp h
      rfl
    | _ :: _ :: _ =>
      match selected', h.length_eq with
      | _ :: _ :: _, _ => rfl

mutual

/-- **A row fulfils the same filters in every order of the collection.** -/
theorem holds_perm {rows rows' : List Json} (h : rows.Perm rows') (row : Json) :
    (p : Predicate) → p.holds rows row = p.holds rows' row
  | .condition _ => rfl
  | .all ps => holdsAll_perm h row ps
  | .any ps => holdsAny_perm h row ps
  | .nested field operation subquery => by
    have hsubquery : (fun candidate => subquery.holds rows candidate) =
        fun candidate => subquery.holds rows' candidate :=
      funext fun candidate => holds_perm h candidate subquery
    have hselected : ((rows.filter fun candidate => subquery.holds rows candidate).filterMap
        (field? · field)).Perm
          ((rows'.filter fun candidate => subquery.holds rows' candidate).filterMap
            (field? · field)) := by
      rw [hsubquery]
      exact (h.filter _).filterMap _
    cases operation <;> cases hfield : field? row field <;>
      simp only [Predicate.holds, hfield, holdsOfSelected_perm _ _ hselected]

theorem holdsAll_perm {rows rows' : List Json} (h : rows.Perm rows') (row : Json) :
    (ps : List Predicate) → Predicate.holdsAll rows row ps = Predicate.holdsAll rows' row ps
  | [] => rfl
  | p :: ps => by
    rw [Predicate.holdsAll, Predicate.holdsAll, holds_perm h row p, holdsAll_perm h row ps]

theorem holdsAny_perm {rows rows' : List Json} (h : rows.Perm rows') (row : Json) :
    (ps : List Predicate) → Predicate.holdsAny rows row ps = Predicate.holdsAny rows' row ps
  | [] => rfl
  | p :: ps => by
    rw [Predicate.holdsAny, Predicate.holdsAny, holds_perm h row p, holdsAny_perm h row ps]

end

/-! ### Shuffled collections -/

/-- The collection in another order: in place `i` is the row that was in place `σ i`. -/
def shuffled (rows : List Json) (σ : Equiv.Perm (Fin rows.length)) : List Json :=
  List.ofFn fun i => rows.get (σ i)

theorem shuffled_perm (rows : List Json) (σ : Equiv.Perm (Fin rows.length)) :
    (shuffled rows σ).Perm rows := by
  have hperm : (shuffled rows σ).Perm (List.ofFn rows.get) := σ.ofFn_comp_perm rows.get
  rwa [List.ofFn_get] at hperm

theorem getElem?_shuffled (rows : List Json) (σ : Equiv.Perm (Fin rows.length))
    (i : Fin rows.length) : (shuffled rows σ)[i.val]? = rows[(σ i).val]? := by
  rw [shuffled, List.getElem?_ofFn, dif_pos i.isLt]
  exact (List.getElem?_eq_getElem _).symm

/-- A query finds the rows that fulfil its filter. -/
theorem map_getElem?_filter (rows : List Json) (p : Predicate) :
    (filter rows p).map (rows[·]?) = (rows.filter fun row => p.holds rows row).map some := by
  have hrow : ∀ x ∈ matching rows p, rows[x.2]? = some x.1 := fun x hx => (mem_matching.mp hx).1
  calc (filter rows p).map (rows[·]?)
      = (matching rows p).map fun x => rows[x.2]? := by rw [filter, List.map_map]; rfl
    _ = ((matching rows p).map Prod.fst).map some := by
        rw [List.map_congr_left hrow, List.map_map]
        rfl
    _ = (rows.filter fun row => p.holds rows row).map some := by
        rw [← List.zipIdx_map_fst 0 rows, List.filter_map]
        simp only [List.zipIdx_map_fst]
        rfl

/-- **The order of the collection does not matter to a filter.** In a shuffled collection every row
fulfils a filter if it did before. So a query finds a place if it found the one that its row came
from, and the rows that it finds are the same, each as often. -/
theorem shuffling_keeps_matches (p : Predicate) (rows : List Json)
    (σ : Equiv.Perm (Fin rows.length)) :
    (∀ row, p.holds (shuffled rows σ) row = p.holds rows row) ∧
      (∀ i : Fin rows.length,
        i.val ∈ filter (shuffled rows σ) p ↔ (σ i).val ∈ filter rows p) ∧
      ((filter (shuffled rows σ) p).map ((shuffled rows σ)[·]?)).Perm
        ((filter rows p).map (rows[·]?)) := by
  have hholds : ∀ row, p.holds (shuffled rows σ) row = p.holds rows row :=
    fun row => holds_perm (shuffled_perm rows σ) row p
  refine ⟨hholds, ?_, ?_⟩
  · intro i
    rw [mem_filter, mem_filter, getElem?_shuffled]
    simp only [hholds]
  · rw [map_getElem?_filter, map_getElem?_filter, funext hholds]
    exact ((shuffled_perm rows σ).filter _).map _

end FilterQuery.Memory
