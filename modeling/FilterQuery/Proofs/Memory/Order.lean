import FilterQuery.Memory.Order

/-!
# The order of rows is a total preorder

Rows hold values of any kind side by side, and a sort needs one order of all of them. Every place of
a value has the same parts, those of other kinds left at a constant, and the order compares the
parts one after the other (`SortRank.order_eq_compare`). So it is transitive and total, and so is
the order of rows by any list of keys, whatever their directions.

The order by a list of keys is lexicographic: one row precedes another if the first key that tells
them apart says so (`compareRows_eq_lt`). A key tells two values apart unless they are `Tied`: both
missing, both arrays, both objects, or one and the same scalar (`order_of_eq_eq`). So integers that
round to one double are told apart, and so are two texts of one instant.

`rows_are_totally_preordered` gathers what a sort needs and how the kinds are ranked.
-/

namespace FilterQuery

/-- No two doubles have one place in the total order. -/
theorem Binary64.rank_inj {x y : Binary64} : x.rank = y.rank ↔ x = y := by
  cases x with
  | nan =>
    cases y with
    | nan => simp
    | number t b hb => cases t <;> simp [rank] <;> omega
  | number s a ha =>
    cases y with
    | nan => cases s <;> simp [rank] <;> omega
    | number t b hb => cases s <;> cases t <;> simp [rank] <;> omega

namespace Memory

open Std (OrientedCmp TransCmp)

/-! ### Values -/

attribute [local instance] lexOrd

/-- What a value is compared by: its kind, and then what its kind is compared by. -/
def SortRank.parts : SortRank → Nat × Bool × (Int × Option Int) × (Int × Nat) × String
  | .boolean b => (1, b, (0, none), (0, 0), "")
  | .number n => (2, false, (n.double, n.exact), (0, 0), "")
  | .instant i s => (3, false, (0, none), (i.seconds, i.nanoseconds), s)
  | .text s => (4, false, (0, none), (0, 0), s)
  | r => (r.kind, false, (0, none), (0, 0), "")

theorem compare_pair {α β : Type} [Ord α] [Ord β] (x y : α × β) :
    compare x y = (compare x.1 y.1).then (compare x.2 y.2) := rfl

theorem compare_instant (i j : Instant) :
    compare i j = (compare i.seconds j.seconds).then (compare i.nanoseconds j.nanoseconds) := rfl

/-- **Values are ordered by their parts.** -/
theorem SortRank.order_eq_compare (a b : SortRank) : a.order b = compare a.parts b.parts := by
  cases a <;> cases b <;>
    simp [order, parts, kind, NumberRank.order, compare_pair, compare_instant,
      Nat.compare_eq_ite_lt]

instance : TransCmp SortRank.order where
  eq_swap {a b} := by
    rw [SortRank.order_eq_compare, SortRank.order_eq_compare]
    exact OrientedCmp.eq_swap
  isLE_trans {a b c} hab hbc := by
    rw [SortRank.order_eq_compare] at hab hbc ⊢
    exact TransCmp.isLE_trans hab hbc

theorem compare_instant_eq_eq {i j : Instant} : compare i j = .eq ↔ i = j := by
  obtain ⟨seconds, nanoseconds⟩ := i
  obtain ⟨seconds', nanoseconds'⟩ := j
  simp [compare_instant, Ordering.then_eq_eq]

theorem NumberRank.order_eq_eq {a b : NumberRank} : a.order b = .eq ↔ a = b := by
  obtain ⟨double, exact⟩ := a
  obtain ⟨double', exact'⟩ := b
  simp [order, Ordering.then_eq_eq]

theorem SortRank.order_eq_eq {a b : SortRank} : a.order b = .eq ↔ a = b := by
  cases a <;> cases b <;>
    simp [order, kind, NumberRank.order_eq_eq, compare_instant_eq_eq, Ordering.then_eq_eq]

/-- Values of different kinds are ordered as their kinds are. -/
theorem SortRank.order_eq_lt_of_kind {a b : SortRank} (h : a.kind < b.kind) :
    a.order b = .lt := by
  cases a <;> cases b <;> simp [kind] at h <;> rfl

/-! ### Stored values -/

/-- The kinds of what a field may hold, each before the ones after it. -/
inductive Kind where
  | missing | boolean | number | instant | text | array | object
deriving DecidableEq, Ord

/-- The kind of what a field holds, if it holds anything. -/
def Kind.of : Option Json → Kind
  | none | some .null => .missing
  | some (.bool _) => .boolean
  | some (.integer _) | some (.float _) => .number
  | some (.string s) => if (Instant.read? s).isSome then .instant else .text
  | some (.array _) => .array
  | some (.object _) => .object

theorem SortRank.kind_of (v : Option Json) : (SortRank.of v).kind = (Kind.of v).ctorIdx := by
  rcases v with _ | (_ | _ | _ | _ | s | _ | _) <;> try rfl
  simp only [SortRank.of, Kind.of]
  cases Instant.read? s <;> rfl

theorem order_of_kind {v w : Option Json} (h : compare (Kind.of v) (Kind.of w) = .lt) :
    (SortRank.of v).order (SortRank.of w) = .lt := by
  apply SortRank.order_eq_lt_of_kind
  rw [SortRank.kind_of, SortRank.kind_of]
  exact Nat.compare_eq_lt.mp h

/-- No sort key tells apart what two fields hold. -/
inductive Tied : Option Json → Option Json → Prop
  | missing {v w : Option Json} :
    v = none ∨ v = some .null → w = none ∨ w = some .null → Tied v w
  | array (items others : List Json) : Tied (some (.array items)) (some (.array others))
  | object (members others : List (String × Json)) :
    Tied (some (.object members)) (some (.object others))
  | same (v : Option Json) : Tied v v

/-- The fields that have a place: what they hold can be read off it. -/
def SortRank.Holds (v : Option Json) : SortRank → Prop
  | .missing => v = none ∨ v = some .null
  | .boolean b => v = some (.bool b)
  | .number ⟨_, some i⟩ => v = some (.integer i)
  | .number ⟨double, none⟩ => ∃ x, v = some (.float x) ∧ x.rank = double
  | .instant _ s | .text s => v = some (.string s)
  | .array => ∃ items, v = some (.array items)
  | .object => ∃ members, v = some (.object members)

theorem SortRank.holds_of (v : Option Json) : (SortRank.of v).Holds v := by
  rcases v with _ | (_ | b | i | x | s | items | members)
  · exact .inl rfl
  · exact .inr rfl
  · exact rfl
  · exact rfl
  · exact ⟨x, rfl, rfl⟩
  · simp only [SortRank.of]
    cases Instant.read? s <;> rfl
  · exact ⟨items, rfl⟩
  · exact ⟨members, rfl⟩

theorem SortRank.Holds.tied {r : SortRank} {v w : Option Json} (hv : r.Holds v) (hw : r.Holds w) :
    Tied v w := by
  cases r with
  | missing => exact .missing hv hw
  | boolean b => exact hv ▸ hw ▸ .same _
  | number n =>
    obtain ⟨double, _ | i⟩ := n
    · obtain ⟨x, rfl, hx⟩ := hv
      obtain ⟨y, rfl, hy⟩ := hw
      obtain rfl : x = y := Binary64.rank_inj.mp (hx.trans hy.symm)
      exact .same _
    · exact hv ▸ hw ▸ .same _
  | instant i s => exact hv ▸ hw ▸ .same _
  | text s => exact hv ▸ hw ▸ .same _
  | array =>
    obtain ⟨items, rfl⟩ := hv
    obtain ⟨others, rfl⟩ := hw
    exact .array items others
  | object =>
    obtain ⟨members, rfl⟩ := hv
    obtain ⟨others, rfl⟩ := hw
    exact .object members others

theorem SortRank.of_eq_of_iff {v w : Option Json} : SortRank.of v = SortRank.of w ↔ Tied v w := by
  constructor
  · intro h
    exact (holds_of v).tied (h ▸ holds_of w)
  · rintro (⟨rfl | rfl, rfl | rfl⟩ | _ | _ | _) <;> rfl

/-- **What no key tells apart**: nothing with nothing, arrays, objects, and a scalar with itself. -/
theorem order_of_eq_eq {v w : Option Json} :
    (SortRank.of v).order (SortRank.of w) = .eq ↔ Tied v w := by
  rw [SortRank.order_eq_eq, SortRank.of_eq_of_iff]

/-! ### Rows -/

/-- **What one key does not tell apart**, in either direction. -/
theorem compareBy_eq_eq_iff_tied {key : SortKey} {a b : Json} :
    compareBy key a b = .eq ↔ Tied (a.member? key.field) (b.member? key.field) := by
  obtain ⟨field, direction⟩ := key
  cases direction with
  | ascending => exact order_of_eq_eq
  | descending => exact Ordering.swap_eq_eq.trans order_of_eq_eq

/-- By one key, the kinds are ranked upwards or downwards. -/
theorem compareBy_of_kind {field : String} (direction : Direction) {a b : Json}
    (h : compare (Kind.of (a.member? field)) (Kind.of (b.member? field)) = .lt) :
    compareBy ⟨field, direction⟩ a b =
      match direction with
      | .ascending => .lt
      | .descending => .gt := by
  cases direction with
  | ascending => exact order_of_kind h
  | descending => exact congrArg Ordering.swap (order_of_kind h)

/-- Downwards is the order upwards with its sides changed. -/
theorem compareBy_descending (field : String) (a b : Json) :
    compareBy ⟨field, .descending⟩ a b = compareBy ⟨field, .ascending⟩ b a :=
  OrientedCmp.eq_swap.symm

theorem transCmp_ascending (field : String) : TransCmp (compareBy ⟨field, .ascending⟩) where
  eq_swap {a b} :=
    @OrientedCmp.eq_swap _ SortRank.order _ (.of (a.member? field)) (.of (b.member? field))
  isLE_trans {a b c} :=
    @TransCmp.isLE_trans _ SortRank.order _ (.of (a.member? field)) (.of (b.member? field))
      (.of (c.member? field))

instance (key : SortKey) : TransCmp (compareBy key) := by
  obtain ⟨field, direction⟩ := key
  have hascending := transCmp_ascending field
  cases direction with
  | ascending => exact hascending
  | descending =>
    have hswap : compareBy ⟨field, .descending⟩ = fun a b => compareBy ⟨field, .ascending⟩ b a :=
      funext fun a => funext fun b => compareBy_descending field a b
    rw [hswap]
    exact TransCmp.opposite

/-- **Any list of keys orders any rows**: the order of rows is transitive and total. -/
instance (keys : List SortKey) : TransCmp (compareRows keys) := by
  induction keys with
  | nil => exact { eq_swap := rfl, isLE_trans := fun _ _ => rfl }
  | cons key keys ih =>
    exact inferInstanceAs (TransCmp (compareLex (compareBy key) (compareRows keys)))

theorem compareRows_swap (keys : List SortKey) (a b : Json) :
    (compareRows keys a b).swap = compareRows keys b a :=
  OrientedCmp.eq_swap.symm

/-! ### The first key that tells rows apart -/

theorem compareRows_append (keys more : List SortKey) (a b : Json) :
    compareRows (keys ++ more) a b = (compareRows keys a b).then (compareRows more a b) := by
  induction keys with
  | nil => rfl
  | cons key keys ih => rw [List.cons_append, compareRows, ih, compareRows, Ordering.then_assoc]

theorem compareRows_eq_eq {keys : List SortKey} {a b : Json} :
    compareRows keys a b = .eq ↔ ∀ key ∈ keys, compareBy key a b = .eq := by
  induction keys with
  | nil => simp [compareRows]
  | cons key keys ih => rw [compareRows, Ordering.then_eq_eq, ih, List.forall_mem_cons]

/-- One row comes before another by the keys: it does by some key, and no earlier key tells the two
apart. -/
def Precedes (keys : List SortKey) (a b : Json) : Prop :=
  ∃ before key after, keys = before ++ key :: after ∧
    (∀ k ∈ before, compareBy k a b = .eq) ∧ compareBy key a b = .lt

/-- **The order by several keys is lexicographic.** -/
theorem compareRows_eq_lt {keys : List SortKey} {a b : Json} :
    compareRows keys a b = .lt ↔ Precedes keys a b := by
  induction keys with
  | nil => simp [compareRows, Precedes]
  | cons key keys ih =>
    rw [compareRows, Ordering.then_eq_lt, ih]
    constructor
    · rintro (hkey | ⟨hkey, before, next, after, rfl, hbefore, hnext⟩)
      · exact ⟨[], key, keys, rfl, by simp, hkey⟩
      · exact ⟨key :: before, next, after, rfl, List.forall_mem_cons.mpr ⟨hkey, hbefore⟩, hnext⟩
    · rintro ⟨before, next, after, hkeys, hbefore, hnext⟩
      cases before with
      | nil =>
        obtain ⟨rfl, -⟩ := List.cons.inj hkeys
        exact .inl hnext
      | cons other before =>
        obtain ⟨rfl, rfl⟩ := List.cons.inj hkeys
        obtain ⟨hother, hbefore⟩ := List.forall_mem_cons.mp hbefore
        exact .inr ⟨hother, before, next, after, rfl, hbefore, hnext⟩

theorem compareRows_eq_eq_iff_tied {keys : List SortKey} {a b : Json} :
    compareRows keys a b = .eq ↔
      ∀ key ∈ keys, Tied (a.member? key.field) (b.member? key.field) := by
  simp only [compareRows_eq_eq, compareBy_eq_eq_iff_tied]

/-- **Any list of keys is a total preorder of all rows.** Rows are equal in it if no key tells their
fields apart. The first key for which the fields are not tied decides, and if they are of different
kinds, by their kinds. -/
theorem rows_are_totally_preordered (keys : List SortKey) :
    (∀ a, compareRows keys a a = .eq) ∧
    (∀ a b, compareRows keys b a = (compareRows keys a b).swap) ∧
    (∀ a b, (compareRows keys a b).isLE ∨ (compareRows keys b a).isLE) ∧
    (∀ a b c, (compareRows keys a b).isLE → (compareRows keys b c).isLE →
      (compareRows keys a c).isLE) ∧
    (∀ a b c, compareRows keys a b = .eq → compareRows keys b c = .eq →
      compareRows keys a c = .eq) ∧
    (∀ a b, compareRows keys a b = .eq ↔
      ∀ key ∈ keys, Tied (a.member? key.field) (b.member? key.field)) ∧
    ∀ before field direction after a b, keys = before ++ ⟨field, direction⟩ :: after →
      (∀ key ∈ before, Tied (a.member? key.field) (b.member? key.field)) →
      compare (Kind.of (a.member? field)) (Kind.of (b.member? field)) = .lt →
      compareRows keys a b =
        match direction with
        | .ascending => .lt
        | .descending => .gt := by
  refine ⟨fun a => ?_, fun a b => OrientedCmp.eq_swap, fun a b => ?_,
    fun a b c => TransCmp.isLE_trans, fun a b c => TransCmp.eq_trans,
    fun a b => compareRows_eq_eq_iff_tied, ?_⟩
  · exact compareRows_eq_eq_iff_tied.mpr fun key _ => .same _
  · rw [← compareRows_swap keys a b]
    cases compareRows keys a b <;> simp
  · rintro before field direction after a b rfl hbefore hkind
    rw [compareRows_append, compareRows_eq_eq_iff_tied.mpr hbefore, compareRows,
      compareBy_of_kind direction hkind]
    cases direction <;> rfl

/-- Two arrays are tied, so the second key decides, and an instant comes before another text
although `"2"` comes after `"1"`. A row that is no object comes last: its first field is missing. -/
theorem rows_are_totally_preordered_beside_arrays :
    let keys : List SortKey := [⟨"tags", .descending⟩, ⟨"due", .ascending⟩]
    let row (tags : List Json) (due : String) :=
      Json.object [("tags", .array tags), ("due", .string due)]
    compareRows keys (row [.null] "2024-01-01T00:00:00Z") (row [] "1 May") = .lt ∧
      compareRows keys (row [] "1 May") .null = .lt ∧
      (compareRows keys (row [.null] "2024-01-01T00:00:00Z") .null).isLE := by
  intro keys row
  obtain ⟨-, hswap, -, htrans, -, -, hkinds⟩ := rows_are_totally_preordered keys
  have hdue : compareRows keys (row [.null] "2024-01-01T00:00:00Z") (row [] "1 May") = .lt :=
    hkinds [⟨"tags", .descending⟩] "due" .ascending [] _ _ rfl
      (List.forall_mem_singleton.mpr (.array [.null] [])) (by decide)
  have hobject : compareRows keys (row [] "1 May") .null = .lt := by
    rw [hswap .null, hkinds [] "tags" .descending _ _ _ rfl (by simp) (by decide)]
    rfl
  exact ⟨hdue, hobject, htrans _ _ _ (by rw [hdue]; rfl) (by rw [hobject]; rfl)⟩

end Memory

end FilterQuery
