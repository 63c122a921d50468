import FilterQuery.Memory.Query
import FilterQuery.Proofs.Memory.Order
import Mathlib.Data.List.Nodup

/-!
# Pages tile the sorted rows

The rows that fulfil a filter stand in one order and no other: sorted by the keys, and rows that no
key tells apart in the order of the collection (`StablySorted`). There is such an order because the
comparison of rows is transitive and total, whatever kinds of values they hold side by side
(`stablySorted_positions`), and there is no second one (`StablySorted.eq`).

A page is a window on that order. So the pages of one length, one after the other, show each row
that fulfils the filter, and show it once (`pages_tile_sorted_rows`).
-/

namespace FilterQuery.Memory

open Std (OrientedCmp TransCmp)

/-! ### Stable sorting -/

section

variable {α : Type} {cmp : α → α → Ordering} [TransCmp cmp]

theorem ne_gt_iff_isLE {o : Ordering} : (o != .gt) = true ↔ o.isLE := by
  cases o <;> decide

/-- Sorting elements that are numbered in increasing order leaves those of one rank in the order of
their numbers. -/
theorem pairwise_mergeSort_numbered {l : List (α × Nat)} (hl : l.Pairwise fun x y => x.2 < y.2) :
    (l.mergeSort fun x y => cmp x.1 y.1 != .gt).Pairwise fun x y =>
      cmp x.1 y.1 = .lt ∨ cmp x.1 y.1 = .eq ∧ x.2 < y.2 := by
  let le : α × Nat → α × Nat → Bool := fun x y => cmp x.1 y.1 != .gt
  have htrans : ∀ x y z, le x y = true → le y z = true → le x z = true := by
    simp only [le, ne_gt_iff_isLE]
    exact fun _ _ _ => TransCmp.isLE_trans
  have htotal : ∀ x y, (le x y || le y x) = true := by
    intro x y
    have hswap : cmp y.1 x.1 = (cmp x.1 y.1).swap := OrientedCmp.eq_swap
    simp only [le, hswap]
    cases cmp x.1 y.1 <;> rfl
  -- with each element goes its place in the list, which breaks the ties
  have hsorted := List.pairwise_mergeSort (List.zipIdxLE_trans htrans)
    (List.zipIdxLE_total htotal) l.zipIdx
  have hperm := List.mergeSort_perm l.zipIdx (List.zipIdxLE le)
  have hplaces : (l.zipIdx.mergeSort (List.zipIdxLE le)).Pairwise fun p q => p.2 ≠ q.2 := by
    rw [hperm.pairwise_iff Ne.symm, ← List.pairwise_map, List.zipIdx_map_snd]
    exact List.nodup_range'
  show (l.mergeSort le).Pairwise _
  rw [← List.mergeSort_zipIdx, List.pairwise_map]
  refine (hsorted.and hplaces).imp_of_mem ?_
  rintro ⟨x, i⟩ ⟨y, j⟩ hx hy ⟨hle, hne⟩
  have hxi : l[i]? = some x := List.mem_zipIdx_iff_getElem?.mp (hperm.mem_iff.mp hx)
  have hyj : l[j]? = some y := List.mem_zipIdx_iff_getElem?.mp (hperm.mem_iff.mp hy)
  have hswap : cmp y.1 x.1 = (cmp x.1 y.1).swap := OrientedCmp.eq_swap
  simp only [List.zipIdxLE, le, hswap] at hle
  cases hcmp : cmp x.1 y.1 with
  | lt => exact .inl rfl
  | gt => simp [hcmp] at hle
  | eq =>
    have hij : i < j := by
      have hle : i ≤ j := by simpa [hcmp] using hle
      exact Nat.lt_of_le_of_ne hle hne
    obtain ⟨hi, rfl⟩ := List.getElem?_eq_some_iff.mp hxi
    obtain ⟨hj, rfl⟩ := List.getElem?_eq_some_iff.mp hyj
    exact .inr ⟨rfl, List.pairwise_iff_getElem.mp hl i j hi hj hij⟩

end

/-! ### The order of the rows that fulfil a filter -/

/-- The positions of the rows that fulfil a filter, each of them once, so that no row precedes an
earlier one and rows that no key tells apart are in the order of the collection. -/
structure StablySorted (rows : List Json) (p : Predicate) (keys : List SortKey)
    (order : List Nat) : Prop where
  nodup : order.Nodup
  mem_iff (i : Nat) : i ∈ order ↔ ∃ row, rows[i]? = some row ∧ p.holds rows row = true
  sorted : order.Pairwise fun i j =>
    ∀ a b, rows[i]? = some a → rows[j]? = some b → ¬ Precedes keys b a
  stable : order.Pairwise fun i j =>
    ∀ a b, rows[i]? = some a → rows[j]? = some b → (∀ key ∈ keys, compareBy key a b = .eq) → i < j

/-- Two positions cannot both stand before each other. -/
theorem StablySorted.eq {rows : List Json} {p : Predicate} {keys : List SortKey}
    {order other : List Nat} (h : StablySorted rows p keys order)
    (h' : StablySorted rows p keys other) : order = other := by
  have hperm : order.Perm other := by
    rw [List.perm_ext_iff_of_nodup h.nodup h'.nodup]
    intro i
    rw [h.mem_iff, h'.mem_iff]
  refine hperm.eq_of_pairwise ?_ (h.sorted.and h.stable) (h'.sorted.and h'.stable)
  rintro i j hi hj ⟨hij, hstable⟩ ⟨hji, hstable'⟩
  obtain ⟨a, ha, -⟩ := (h.mem_iff i).mp hi
  obtain ⟨b, hb, -⟩ := (h'.mem_iff j).mp hj
  cases hcmp : compareRows keys a b with
  | lt => exact absurd (compareRows_eq_lt.mp hcmp) (hji b a hb ha)
  | gt =>
    have hswap : compareRows keys b a = .lt := by
      rw [← compareRows_swap, hcmp]
      rfl
    exact absurd (compareRows_eq_lt.mp hswap) (hij a b ha hb)
  | eq =>
    have hsame := compareRows_eq_eq.mp hcmp
    have hsame' : ∀ key ∈ keys, compareBy key b a = .eq := by
      intro key hkey
      exact OrientedCmp.eq_symm (hsame key hkey)
    exact absurd (hstable a b ha hb hsame) (Nat.lt_asymm (hstable' b a hb ha hsame'))

theorem mem_matching {rows : List Json} {p : Predicate} {row : Json × Nat} :
    row ∈ matching rows p ↔ rows[row.2]? = some row.1 ∧ p.holds rows row.1 = true := by
  rw [matching, List.mem_filter, List.mem_zipIdx_iff_getElem?]

theorem pairwise_matching (rows : List Json) (p : Predicate) :
    (matching rows p).Pairwise fun x y => x.2 < y.2 := by
  refine List.Pairwise.filter _ ?_
  rw [← List.pairwise_map, List.zipIdx_map_snd]
  exact List.pairwise_lt_range'

theorem mem_filter {rows : List Json} {p : Predicate} {i : Nat} :
    i ∈ filter rows p ↔ ∃ row, rows[i]? = some row ∧ p.holds rows row = true := by
  rw [filter, List.mem_map]
  constructor
  · rintro ⟨x, hx, rfl⟩
    exact ⟨x.1, mem_matching.mp hx⟩
  · rintro ⟨row, hrow⟩
    exact ⟨(row, i), mem_matching.mpr hrow, rfl⟩

/-- The positions of the rows that fulfil a filter, sorted by the keys. -/
def positions (rows : List Json) (p : Predicate) (keys : List SortKey) : List Nat :=
  (sorted rows p keys).map (·.2)

/-- **The matching rows are sorted, and the sort is stable.** -/
theorem stablySorted_positions (rows : List Json) (p : Predicate) (keys : List SortKey) :
    StablySorted rows p keys (positions rows p keys) := by
  have hperm : (sorted rows p keys).Perm (matching rows p) := List.mergeSort_perm ..
  have hordered : (positions rows p keys).Pairwise fun i j =>
      ∀ a b, rows[i]? = some a → rows[j]? = some b →
        compareRows keys a b = .lt ∨ compareRows keys a b = .eq ∧ i < j := by
    rw [positions, List.pairwise_map]
    have hsorted : (sorted rows p keys).Pairwise fun x y => compareRows keys x.1 y.1 = .lt ∨
        compareRows keys x.1 y.1 = .eq ∧ x.2 < y.2 :=
      pairwise_mergeSort_numbered (pairwise_matching rows p)
    refine hsorted.imp_of_mem ?_
    intro x y hx hy hxy a b ha hb
    have hx := (mem_matching.mp (hperm.mem_iff.mp hx)).1
    have hy := (mem_matching.mp (hperm.mem_iff.mp hy)).1
    obtain rfl : x.1 = a := Option.some.inj (hx.symm.trans ha)
    obtain rfl : y.1 = b := Option.some.inj (hy.symm.trans hb)
    exact hxy
  constructor
  case nodup =>
    rw [positions, (hperm.map _).nodup_iff, List.Nodup, List.pairwise_map]
    exact (pairwise_matching rows p).imp Nat.ne_of_lt
  case mem_iff =>
    intro i
    rw [positions, (hperm.map _).mem_iff]
    exact mem_filter
  case sorted =>
    refine hordered.imp ?_
    intro i j hij a b ha hb hba
    rw [← compareRows_eq_lt, ← compareRows_swap] at hba
    rcases hij a b ha hb with hlt | ⟨heq, -⟩
    · simp [hlt] at hba
    · simp [heq] at hba
  case stable =>
    refine hordered.imp ?_
    intro i j hij a b ha hb hsame
    rw [← compareRows_eq_eq] at hsame
    rcases hij a b ha hb with hlt | ⟨-, hlt⟩
    · simp [hlt] at hsame
    · exact hlt

/-! ### Windows -/

theorem execute_eq (rows : List Json) (p : Predicate) (offset limit : Nat) (keys : List SortKey) :
    execute rows p ⟨offset, limit, keys⟩ = ((positions rows p keys).drop offset).take limit := rfl

/-- Windows of one length, one after the other, show the beginning of a list. -/
theorem flatMap_windows {α : Type} (l : List α) (limit n : Nat) :
    ((List.range n).flatMap fun k => (l.drop (k * limit)).take limit) = l.take (n * limit) := by
  induction n with
  | zero => simp
  | succ n ih =>
    rw [List.range_succ, List.flatMap_append, ih, Nat.succ_mul, List.take_add]
    simp

theorem getElem?_window {α : Type} (l : List α) (offset limit k : Nat) :
    ((l.drop offset).take limit)[k]? = if k < limit then l[offset + k]? else none := by
  rw [List.getElem?_take, List.getElem?_drop]

/-- An element that a list holds once is in one of the windows only. -/
theorem existsUnique_window {l : List Nat} (hl : l.Nodup) {limit : Nat} (hlimit : 0 < limit)
    {i : Nat} (hi : i ∈ l) : ∃! k, i ∈ (l.drop (k * limit)).take limit := by
  obtain ⟨place, hplace, hget⟩ := List.getElem_of_mem hi
  have hmem : ∀ k, i ∈ (l.drop (k * limit)).take limit ↔ k = place / limit := by
    intro k
    rw [List.mem_iff_getElem?]
    constructor
    · rintro ⟨m, hm⟩
      rw [getElem?_window] at hm
      split at hm
      case isTrue hlt =>
        have hsame : k * limit + m = place := by
          obtain ⟨hbound, hvalue⟩ := List.getElem?_eq_some_iff.mp hm
          exact (hl.getElem_inj_iff).mp (hvalue.trans hget.symm)
        rw [← hsame, Nat.mul_comm, Nat.mul_add_div hlimit, Nat.div_eq_of_lt hlt, Nat.add_zero]
      case isFalse => cases hm
    · rintro rfl
      refine ⟨place % limit, ?_⟩
      rw [getElem?_window, if_pos (Nat.mod_lt place hlimit), Nat.div_add_mod']
      exact List.getElem?_eq_some_iff.mpr ⟨hplace, hget⟩
  exact ⟨place / limit, (hmem _).mpr rfl, fun k hk => (hmem k).mp hk⟩

/-- **Pages tile the sorted rows.** There is one stable order of the rows that fulfil a filter, and
each page is the window on it that its offset and its limit say. Pages of one length, one after the
other, are the whole order, and each of its rows is on one of them. -/
theorem pages_tile_sorted_rows (rows : List Json) (p : Predicate) (keys : List SortKey) :
    ∃ order,
      (∀ other, StablySorted rows p keys other ↔ other = order) ∧
      (∀ offset limit k, (execute rows p ⟨offset, limit, keys⟩)[k]? =
        if k < limit then order[offset + k]? else none) ∧
      ∀ limit, 0 < limit →
        (∀ n, order.length ≤ n * limit →
          ((List.range n).flatMap fun k => execute rows p ⟨k * limit, limit, keys⟩) = order) ∧
        ∀ i ∈ order, ∃! k, i ∈ execute rows p ⟨k * limit, limit, keys⟩ := by
  have horder := stablySorted_positions rows p keys
  refine ⟨positions rows p keys, ?_, ?_, ?_⟩
  · intro other
    constructor
    · exact fun hother => hother.eq horder
    · rintro rfl
      exact horder
  · intro offset limit k
    rw [execute_eq, getElem?_window]
  · intro limit hlimit
    simp only [execute_eq]
    constructor
    · intro n hn
      rw [flatMap_windows, List.take_of_length_le hn]
    · intro i hi
      exact existsUnique_window horder.nodup hlimit hi

/-- Texts before numbers before missing values, and two equal texts in the order of the collection:
two pages of three rows. -/
theorem pages_tile_sorted_rows_of_mixed_kinds :
    let rows : List Json := [.object [("a", .integer 2)], .object [("a", .string "x")],
      .object [("gone", .bool true)], .object [("b", .null)], .object [("a", .string "x")]]
    let p : Predicate := .condition (.isNull "gone")
    let keys : List SortKey := [⟨"a", .descending⟩]
    StablySorted rows p keys [1, 4, 0, 3] ∧
      ((List.range 2).flatMap fun k => execute rows p ⟨k * 3, 3, keys⟩) = [1, 4, 0, 3] ∧
      ∃! k, 3 ∈ execute rows p ⟨k * 3, 3, keys⟩ := by
  intro rows p keys
  have hsorted : StablySorted rows p keys [1, 4, 0, 3] := by
    constructor
    case nodup => decide
    case mem_iff =>
      have hfilter : filter rows p = [0, 1, 3, 4] := by decide
      intro i
      rw [← mem_filter, hfilter]
      exact (show [1, 4, 0, 3].Perm [0, 1, 3, 4] by decide).mem_iff
    case sorted =>
      have hnone : [1, 4, 0, 3].Pairwise fun i j =>
          ∀ a ∈ rows[i]?, ∀ b ∈ rows[j]?, compareRows keys b a ≠ .lt := by decide
      exact hnone.imp fun hij a b ha hb hba => hij a ha b hb (compareRows_eq_lt.mpr hba)
    case stable =>
      have hties : [1, 4, 0, 3].Pairwise fun i j =>
          ∀ a ∈ rows[i]?, ∀ b ∈ rows[j]?, (∀ key ∈ keys, compareBy key a b = .eq) → i < j := by
        decide
      exact hties.imp fun hij a b ha hb => hij a ha b hb
  obtain ⟨order, horder, -, hpages⟩ := pages_tile_sorted_rows rows p keys
  obtain rfl := (horder _).mp hsorted
  obtain ⟨hwhole, honce⟩ := hpages 3 (by decide)
  exact ⟨hsorted, hwhole 2 (by decide), honce 3 (by decide)⟩

end FilterQuery.Memory
