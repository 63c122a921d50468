import FilterQuery.Json.Decode
import FilterQuery.Json.Reader
import Mathlib.Data.List.Nodup

/-!
# Well-formed JSON

A value is well formed if JSON has a text for it: integers fit 64 bits, other numbers are finite,
and no object has two members of one name. The reader returns nothing else
(`wellFormed_of_readWithin?`), so statements about well-formed values are statements about all input.

Of members with one name the reader keeps the last value in the place of the first, and that is
what makes the names distinct (`nodup_setMember`).
-/

namespace FilterQuery.Json

/-- The values that stand directly in an array or an object. -/
def parts : Json → List Json
  | .array items => items
  | .object members => members.map (·.2)
  | _ => []

theorem sizeOf_lt_of_mem_parts {i j : Json} (h : i ∈ j.parts) : sizeOf i < sizeOf j := by
  cases j with
  | array items =>
    have hlt : sizeOf i < sizeOf items := List.sizeOf_lt_of_mem h
    rw [array.sizeOf_spec]
    omega
  | object members =>
    obtain ⟨⟨name, value⟩, hmember, rfl⟩ := List.mem_map.mp h
    have hlt := List.sizeOf_lt_of_mem hmember
    simp only [object.sizeOf_spec, Prod.mk.sizeOf_spec] at hlt ⊢
    omega
  | _ => cases h

theorem mem_parts_of_items {i j : Json} {items : List Json} (h : j.items = .ok items)
    (hi : i ∈ items) : i ∈ j.parts := by
  cases j with
  | array _ =>
    cases h
    exact hi
  | _ => cases h

/-- JSON has a text for the value, and one reading of it. -/
inductive WellFormed : Json → Prop
  | null : WellFormed .null
  | bool (b : Bool) : WellFormed (.bool b)
  | integer {i : Int} : keepsInteger i = true → WellFormed (.integer i)
  | float {x : Binary64} : x.isFinite = true → WellFormed (.float x)
  | string (s : String) : WellFormed (.string s)
  | array {items : List Json} : (∀ item ∈ items, WellFormed item) → WellFormed (.array items)
  | object {members : List (String × Json)} : (members.map (·.1)).Nodup →
    (∀ m ∈ members, WellFormed m.2) → WellFormed (.object members)

attribute [simp] WellFormed.null WellFormed.bool WellFormed.string

@[simp] theorem wellFormed_integer {i : Int} :
    WellFormed (.integer i) ↔ keepsInteger i = true := by
  refine ⟨?_, .integer⟩
  rintro ⟨⟩
  assumption

@[simp] theorem wellFormed_float {x : Binary64} : WellFormed (.float x) ↔ x.isFinite = true := by
  refine ⟨?_, .float⟩
  rintro ⟨⟩
  assumption

@[simp] theorem wellFormed_array {items : List Json} :
    WellFormed (.array items) ↔ ∀ item ∈ items, item.WellFormed := by
  refine ⟨?_, .array⟩
  rintro ⟨⟩
  assumption

@[simp] theorem wellFormed_object {members : List (String × Json)} :
    WellFormed (.object members) ↔
      (members.map (·.1)).Nodup ∧ ∀ m ∈ members, m.2.WellFormed := by
  refine ⟨?_, fun h => .object h.1 h.2⟩
  rintro ⟨⟩
  exact ⟨‹_›, ‹_›⟩

theorem WellFormed.of_mem_parts {i j : Json} (hj : j.WellFormed) (hi : i ∈ j.parts) :
    i.WellFormed := by
  cases hj with
  | array hitems => exact hitems i hi
  | object _ hmembers =>
    obtain ⟨m, hm, rfl⟩ := List.mem_map.mp hi
    exact hmembers m hm
  | _ => cases hi

/-! ### Members -/

theorem mem_setMember {members : List (String × Json)} {name : String} {value : Json}
    {m : String × Json} (h : m ∈ setMember members name value) :
    m = (name, value) ∨ m ∈ members := by
  induction members with
  | nil => exact .inl (List.mem_singleton.mp h)
  | cons head rest ih =>
    obtain ⟨key, old⟩ := head
    rw [setMember] at h
    split at h
    · rcases List.mem_cons.mp h with h | h
      · exact .inl h
      · exact .inr (List.mem_cons_of_mem _ h)
    · rcases List.mem_cons.mp h with h | h
      · exact .inr (h ▸ List.mem_cons_self)
      · exact (ih h).imp_right (List.mem_cons_of_mem _)

/-- A member that is set keeps the names distinct. -/
theorem nodup_setMember {members : List (String × Json)} {name : String} {value : Json}
    (h : (members.map (·.1)).Nodup) : ((setMember members name value).map (·.1)).Nodup := by
  induction members with
  | nil => exact List.nodup_singleton name
  | cons head rest ih =>
    obtain ⟨key, old⟩ := head
    obtain ⟨hkey, hrest⟩ := List.nodup_cons.mp h
    rw [setMember]
    split
    · next heq =>
      subst heq
      exact h
    · next hne =>
      refine List.nodup_cons.mpr ⟨?_, ih hrest⟩
      intro hmem
      obtain ⟨m, hm, hname⟩ := List.mem_map.mp hmem
      rcases mem_setMember hm with rfl | hm
      · exact hne hname.symm
      · exact hkey (hname ▸ List.mem_map_of_mem hm)

/-! ### What the reader returns -/

theorem wellFormed_of_takeMagnitude? {negative : Bool} {cs rest : List Char} {j : Json}
    (h : takeMagnitude? negative cs = some (j, rest)) : j.WellFormed := by
  obtain ⟨⟨whole, cs⟩, -, h⟩ := Option.bind_eq_some_iff.mp h
  obtain ⟨⟨fraction, cs⟩, -, h⟩ := Option.bind_eq_some_iff.mp h
  obtain ⟨⟨exponent, cs⟩, -, h⟩ := Option.bind_eq_some_iff.mp h
  simp only at h
  generalize (if negative then -(Nat.ofDigitChars 10 whole 0 : Int) else _) = i at h
  split at h
  · next hinteger =>
    obtain ⟨rfl, -⟩ := Prod.mk.inj (Option.some.inj h)
    exact .integer hinteger.2.2.1
  · split at h
    · next hfinite =>
      obtain ⟨rfl, -⟩ := Prod.mk.inj (Option.some.inj h)
      exact .float hfinite
    · cases h

theorem wellFormed_of_takeNumber? {cs rest : List Char} {j : Json}
    (h : takeNumber? cs = some (j, rest)) : j.WellFormed := by
  unfold takeNumber? at h
  split at h <;> exact wellFormed_of_takeMagnitude? h

/-- The members read so far, of which an object can be made. -/
def MembersWellFormed (members : List (String × Json)) : Prop :=
  (members.map (·.1)).Nodup ∧ ∀ m ∈ members, m.2.WellFormed

theorem MembersWellFormed.set {members : List (String × Json)} (h : MembersWellFormed members)
    (name : String) {value : Json} (hvalue : value.WellFormed) :
    MembersWellFormed (setMember members name value) := by
  refine ⟨nodup_setMember h.1, ?_⟩
  intro m hm
  rcases mem_setMember hm with rfl | hm
  · exact hvalue
  · exact h.2 m hm

/-- The three readers of values call each other, so what they return is shown together, by
induction on the steps that are left. -/
theorem wellFormed_of_take (steps : Nat) :
    (∀ {levels cs j rest}, takeValue? steps levels cs = some (j, rest) → j.WellFormed) ∧
      (∀ {levels read cs items rest}, takeItems? steps levels read cs = some (items, rest) →
        (∀ item ∈ read, item.WellFormed) → ∀ item ∈ items, item.WellFormed) ∧
      ∀ {levels read cs members rest},
        takeMembers? steps levels read cs = some (members, rest) →
          MembersWellFormed read → MembersWellFormed members := by
  induction steps with
  | zero =>
    refine ⟨?_, ?_, ?_⟩
    · rintro _ _ _ _ ⟨⟩
    · rintro _ _ _ _ _ ⟨⟩
    · rintro _ _ _ _ _ ⟨⟩
  | succ steps ih =>
    obtain ⟨hvalue, hitems, hmembers⟩ := ih
    refine ⟨?_, ?_, ?_⟩
    · intro levels cs j rest h
      rw [takeValue?] at h
      split at h
      · cases h
      · obtain ⟨_, -, heq⟩ := Option.map_eq_some_iff.mp h
        obtain ⟨rfl, -⟩ := Prod.mk.inj heq
        exact .string _
      · split at h
        · cases h
        · obtain ⟨rfl, -⟩ := Prod.mk.inj (Option.some.inj h)
          exact .array (by simp)
        · obtain ⟨_, hread, heq⟩ := Option.map_eq_some_iff.mp h
          obtain ⟨rfl, -⟩ := Prod.mk.inj heq
          exact .array (hitems hread (by simp))
      · split at h
        · cases h
        · obtain ⟨rfl, -⟩ := Prod.mk.inj (Option.some.inj h)
          exact .object List.nodup_nil (by simp)
        · obtain ⟨_, hread, heq⟩ := Option.map_eq_some_iff.mp h
          obtain ⟨rfl, -⟩ := Prod.mk.inj heq
          obtain ⟨hnames, hvalues⟩ := hmembers hread ⟨List.nodup_nil, by simp⟩
          exact .object hnames hvalues
      · obtain ⟨_, -, heq⟩ := Option.map_eq_some_iff.mp h
        obtain ⟨rfl, -⟩ := Prod.mk.inj heq
        exact .null
      · obtain ⟨_, -, heq⟩ := Option.map_eq_some_iff.mp h
        obtain ⟨rfl, -⟩ := Prod.mk.inj heq
        exact .bool true
      · obtain ⟨_, -, heq⟩ := Option.map_eq_some_iff.mp h
        obtain ⟨rfl, -⟩ := Prod.mk.inj heq
        exact .bool false
      · exact wellFormed_of_takeNumber? h
    · intro levels read cs items rest h hread
      rw [takeItems?] at h
      split at h
      · cases h
      · next item cs hitem =>
        have hall : ∀ i ∈ item :: read, i.WellFormed :=
          List.forall_mem_cons.mpr ⟨hvalue hitem, hread⟩
        split at h
        · exact hitems h hall
        · obtain ⟨rfl, -⟩ := Prod.mk.inj (Option.some.inj h)
          intro i hi
          exact hall i (List.mem_reverse.mp hi)
        · cases h
    · intro levels read cs members rest h hread
      rw [takeMembers?] at h
      split at h
      · split at h
        · cases h
        · next name _ _ =>
          split at h
          · split at h
            · cases h
            · next value _ hmember =>
              have hset := hread.set name (hvalue hmember)
              split at h
              · exact hmembers h hset
              · obtain ⟨rfl, -⟩ := Prod.mk.inj (Option.some.inj h)
                exact hset
              · cases h
          · cases h
      · cases h

/-- **The reader returns well-formed values.** -/
theorem wellFormed_of_readWithin? {levels : Nat} {text : String} {j : Json}
    (h : readWithin? levels text = some j) : j.WellFormed := by
  unfold readWithin? at h
  simp only at h
  split at h
  · next hvalue =>
    split at h
    · obtain rfl := Option.some.inj h
      exact (wellFormed_of_take _).1 hvalue
    · cases h
  · cases h

end FilterQuery.Json
