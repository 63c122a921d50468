import FilterQuery.Proofs.Numeral.Rounding
import FilterQuery.Proofs.Request.Decoding
import FilterQuery.Request.Encode

/-!
# Requests survive the wire

The wire form of a request says all that the request says, if every value in it reads back as what
it is. That is not so of all values: an instant is written as a text and stays one, a number that is
not finite becomes `null`, and raw JSON that looks like a group is read as a group. But it is so of
all values that were read from JSON in the first place, and of all plain ones (`Stable`).

So there are two ways to a round trip (`requests_survive_the_wire`):

* what was read is `Stable` (`stable_ofJson`): an integer beyond the longs has become a double, raw
  JSON is no group, and both stay so;
* what is put together without instants, numbers that are not finite and raw JSON is `Plain`, and
  plain values are stable (`Plain.stable`).
-/

namespace FilterQuery

/-! ### Values that read back -/

/-- The value reads back as itself, and so does every value of the groups inside. -/
inductive ParamValue.Stable : ParamValue → Prop
  | alone {v : ParamValue} : v.unlessNull = some v → ParamValue.ofJson v.toJson = v → Stable v
  | group {g : Group} : (∀ p ∈ g.params, ∀ v, p.value = some v → Stable v) → Stable (.group g)

/-- The value is put together from finite numbers of 64 bits, booleans, texts and groups. -/
inductive ParamValue.Plain : ParamValue → Prop
  | bool (b : Bool) : Plain (.bool b)
  | integer {i : Int} : Numeral.isLong i = true → Plain (.integer i)
  | float {x : Binary64} : x.isFinite = true → Plain (.float x)
  | text (s : String) : Plain (.text s)
  | group {g : Group} : (∀ p ∈ g.params, ∀ v, p.value = some v → Plain v) → Plain (.group g)

theorem Json.ofDouble_of_isFinite {x : Binary64} (hx : x.isFinite = true) :
    Json.ofDouble x = .float x := by
  rw [ofDouble, if_pos hx]

theorem ParamValue.stable_float {x : Binary64} (hx : x.isFinite = true) : Stable (.float x) := by
  refine .alone rfl ?_
  rw [toJson, Json.ofDouble_of_isFinite hx, ofJson]

theorem ParamValue.stable_integer {i : Int} (hi : Numeral.isLong i = true) :
    Stable (.integer i) := by
  refine .alone rfl ?_
  rw [toJson, ofJson, if_pos hi]

theorem ParamValue.Plain.stable {v : ParamValue} (h : v.Plain) : v.Stable := by
  induction h with
  | bool b => exact .alone rfl rfl
  | integer hi => exact stable_integer hi
  | float hx => exact stable_float hx
  | text s => exact .alone rfl rfl
  | group _ ih => exact .group ih

/-- An integer of JSON that is no long is read as a double, which is finite. -/
theorem Binary64.isFinite_ofInt_of_keepsInteger {i : Int} (hi : Json.keepsInteger i = true) :
    (Binary64.ofInt i).isFinite = true := by
  apply isFinite_ofInt
  obtain ⟨hlow, hhigh⟩ := Bool.and_eq_true_iff.mp hi
  have hlow : -0x8000000000000000 ≤ i := of_decide_eq_true hlow
  have hhigh : i ≤ 0xFFFFFFFFFFFFFFFF := of_decide_eq_true hhigh
  omega

/-- Raw JSON that is no group stays raw. -/
theorem ParamValue.stable_structured {j : Json} (hj : ofJson j = .structured j) (hnull : j ≠ .null) :
    Stable (.structured j) := by
  refine .alone ?_ hj
  unfold unlessNull
  split
  · next heq => exact absurd (ParamValue.structured.inj heq) hnull
  · rfl

/-- **A value that was read reads back.** The induction is on the JSON: the values inside a group
were read from parts of parts of it. -/
theorem ParamValue.stable_ofJson {j : Json} (hj : j.WellFormed) {v : ParamValue}
    (hv : (ofJson j).unlessNull = some v) : v.Stable := by
  induction hsize : sizeOf j using Nat.strongRecOn generalizing j v with
  | ind size ih =>
    have hgroup : ∀ g, Group.ofJson j = .ok g → Stable (.group g) := by
      intro g hg
      refine .group ?_
      intro p hp w hw
      obtain ⟨i, hi, k, hk, hparam⟩ := Group.exists_part_of_mem hg hp
      obtain ⟨l, hl, hvalue⟩ := Param.exists_part_of_value hparam hw
      have hsmaller : sizeOf l < size := by
        have hil := Json.sizeOf_lt_of_mem_parts hi
        have hkl := Json.sizeOf_lt_of_mem_parts hk
        have hll := Json.sizeOf_lt_of_mem_parts hl
        omega
      have hwell := ((hj.of_mem_parts hi).of_mem_parts hk).of_mem_parts hl
      exact ih (sizeOf l) hsmaller hwell hvalue rfl
    cases hj with
    | null => cases hv
    | bool b =>
      cases hv
      exact .alone rfl rfl
    | string s =>
      cases hv
      exact .alone rfl rfl
    | float hx =>
      cases hv
      exact stable_float hx
    | @integer i hi =>
      rw [ofJson] at hv
      split at hv
      · next hlong =>
        cases hv
        exact stable_integer hlong
      · cases hv
        exact stable_float (Binary64.isFinite_ofInt_of_keepsInteger hi)
    | @array items _ =>
      cases hread : Group.ofItems items with
      | ok g =>
        rw [ofJson, hread] at hv
        cases hv
        exact hgroup g hread
      | error e =>
        have hraw : ofJson (.array items) = .structured (.array items) := by rw [ofJson, hread]
        rw [hraw] at hv
        cases hv
        exact stable_structured hraw (by simp)
    | @object members _ _ =>
      cases hread : Group.ofMembers members default with
      | ok g =>
        rw [ofJson, hread] at hv
        cases hv
        exact hgroup g hread
      | error e =>
        have hraw : ofJson (.object members) = .structured (.object members) := by
          rw [ofJson, hread]
        rw [hraw] at hv
        cases hv
        exact stable_structured hraw (by simp)

/-! ### Conditions and groups -/

/-- The values of the condition fulfil `P`. -/
def Param.Each (P : ParamValue → Prop) (p : Param) : Prop :=
  ∀ v, p.value = some v → P v

/-- The values of the conditions of the group fulfil `P`. -/
def Group.Each (P : ParamValue → Prop) (g : Group) : Prop :=
  ∀ p ∈ g.params, p.Each P

theorem Param.stable_ofJson {j : Json} (hj : j.WellFormed) {p : Param} (h : ofJson j = .ok p) :
    p.Each ParamValue.Stable := by
  intro v hv
  obtain ⟨i, hi, hvalue⟩ := exists_part_of_value h hv
  exact ParamValue.stable_ofJson (hj.of_mem_parts hi) hvalue

theorem Param.stable_listOfJson {j : Json} (hj : j.WellFormed) {ps : List Param}
    (h : listOfJson j = .ok ps) : ∀ p ∈ ps, p.Each ParamValue.Stable := by
  intro p hp
  obtain ⟨i, hi, hparam⟩ := exists_part_of_mem h hp
  exact stable_ofJson (hj.of_mem_parts hi) hparam

theorem Group.stable_ofJson {j : Json} (hj : j.WellFormed) {g : Group} (h : ofJson j = .ok g) :
    g.Each ParamValue.Stable := by
  intro p hp
  obtain ⟨i, hi, k, hk, hparam⟩ := exists_part_of_mem h hp
  exact Param.stable_ofJson ((hj.of_mem_parts hi).of_mem_parts hk) hparam

theorem Glue.ofJson_toJson (glue : Glue) : ofJson glue.toJson = .ok glue := by
  cases glue <;> rfl

/-- A condition reads back if its value does. -/
theorem Param.ofJson_toJson_of_value {p : Param}
    (h : ∀ v, p.value = some v → (ParamValue.ofJson v.toJson).unlessNull = some v) :
    ofJson p.toJson = .ok p := by
  obtain ⟨name, value, operation⟩ := p
  cases value with
  | none => cases operation <;> rfl
  | some v =>
    have hv := h v rfl
    cases operation <;>
      simp [toJson, ofJson, draftOfMembers, hv, Json.optionalMember, Json.text, Json.optional,
        Param.Draft.finish, bind, Except.bind, Except.map]

theorem Param.listToJson_eq_map (ps : List Param) : listToJson ps = ps.map toJson := by
  induction ps with
  | nil => rfl
  | cons p ps ih => rw [listToJson, ih, List.map_cons]

theorem mapM_map_of_reads_back {ε α β : Type} {encode : α → β} {decode : β → Except ε α}
    {xs : List α} (h : ∀ x ∈ xs, decode (encode x) = .ok x) :
    (xs.map encode).mapM decode = .ok xs := by
  induction xs with
  | nil => rfl
  | cons x xs ih =>
    obtain ⟨hx, hxs⟩ := List.forall_mem_cons.mp h
    exact mapM_cons_eq_ok.mpr ⟨x, xs, hx, ih hxs, rfl⟩

/-- Conditions read back as a list if each of them does alone. -/
theorem Param.listOfJson_toJson_of_each {ps : List Param}
    (h : ∀ p ∈ ps, ofJson p.toJson = .ok p) :
    listOfJson (.array (listToJson ps)) = .ok ps := by
  rw [listOfJson, allOfJson_eq_mapM, listToJson_eq_map]
  exact mapM_map_of_reads_back h

/-- A group reads back if each of its conditions does. -/
theorem Group.ofJson_toJson_of_each {g : Group} (h : ∀ p ∈ g.params, Param.ofJson p.toJson = .ok p) :
    ofJson g.toJson = .ok g := by
  obtain ⟨params, glue⟩ := g
  have hparams := Param.listOfJson_toJson_of_each h
  simp [toJson, ofJson, ofMembers, hparams, Glue.ofJson_toJson, bind, Except.bind]

/-- **A stable value reads back.** -/
theorem ParamValue.Stable.ofJson_toJson {v : ParamValue} (h : v.Stable) :
    (ParamValue.ofJson v.toJson).unlessNull = some v := by
  induction h with
  | alone hnull hback => rw [hback, hnull]
  | @group g _ ih =>
    have hback : Group.ofJson g.toJson = .ok g :=
      Group.ofJson_toJson_of_each fun p hp => Param.ofJson_toJson_of_value (ih p hp)
    rw [toJson, ofJson_of_group hback]
    rfl

theorem Param.ofJson_toJson {p : Param} (h : p.Each ParamValue.Stable) :
    ofJson p.toJson = .ok p :=
  ofJson_toJson_of_value fun v hv => (h v hv).ofJson_toJson

theorem Param.listOfJson_toJson {ps : List Param} (h : ∀ p ∈ ps, p.Each ParamValue.Stable) :
    listOfJson (.array (listToJson ps)) = .ok ps :=
  listOfJson_toJson_of_each fun p hp => ofJson_toJson (h p hp)

theorem Group.ofJson_toJson {g : Group} (h : g.Each ParamValue.Stable) :
    ofJson g.toJson = .ok g :=
  ofJson_toJson_of_each fun p hp => Param.ofJson_toJson (h p hp)

/-! ### Pages -/

/-- The numbers of the page are in the ranges of a limit and of an offset. -/
structure PageAttribute.InRange (a : PageAttribute) : Prop where
  limit : ∀ n, a.limit = some n → n ≤ Numeral.limitMax
  offset : ∀ n, a.offset = some n → n ≤ Numeral.countMax

theorem Json.natural_eq_ok {expected : String} {high n : Nat} {j : Json} :
    natural expected high j = .ok n ↔
      ∃ i : Int, j = .integer i ∧ 0 ≤ i ∧ i ≤ high ∧ n = i.toNat := by
  constructor
  · intro h
    obtain ⟨i, hi, rfl⟩ := map_eq_ok.mp h
    cases j with
    | integer k =>
      rw [integerIn] at hi
      split at hi
      · next hbounds =>
        cases hi
        exact ⟨i, rfl, hbounds.1, hbounds.2, rfl⟩
      · cases hi
    | _ => cases hi
  · rintro ⟨i, rfl, hpos, hle, rfl⟩
    rw [natural, integerIn, if_pos ⟨hpos, hle⟩]
    rfl

theorem Json.natural_integer {n high : Nat} (h : n ≤ high) (expected : String) :
    natural expected high (.integer n) = .ok n :=
  natural_eq_ok.mpr ⟨n, rfl, by omega, by omega, by omega⟩

theorem Json.le_of_natural {expected : String} {high n : Nat} {j : Json}
    (h : natural expected high j = .ok n) : n ≤ high := by
  obtain ⟨i, -, hpos, hle, rfl⟩ := natural_eq_ok.mp h
  omega

theorem Json.optional_eq_some {α : Type} {read : Json → Except DecodeError α} {j : Json} {a : α}
    (h : j.optional read = .ok (some a)) : read j = .ok a := by
  cases j with
  | null => cases h
  | _ =>
    obtain ⟨b, hb, heq⟩ := map_eq_ok.mp h
    cases heq
    exact hb

theorem PageAttribute.inRange_ofJson {j : Json} {a : PageAttribute} (h : ofJson j = .ok a) :
    a.InRange := by
  refine Json.readRecord_preserves ?_ ⟨by simp, by simp⟩ h
  intro field hfield i _ s s' hs hput
  simp only [List.mem_cons, List.not_mem_nil, or_false] at hfield
  rcases hfield with rfl | rfl | rfl
  · obtain ⟨limit, hlimit, hput⟩ := bind_eq_ok.mp hput
    cases hput
    refine ⟨?_, hs.offset⟩
    rintro n rfl
    exact Json.le_of_natural (Json.optional_eq_some hlimit)
  · obtain ⟨offset, hoffset, hput⟩ := bind_eq_ok.mp hput
    cases hput
    refine ⟨hs.limit, ?_⟩
    rintro n rfl
    exact Json.le_of_natural (Json.optional_eq_some hoffset)
  · obtain ⟨sortBy, -, hput⟩ := bind_eq_ok.mp hput
    cases hput
    exact ⟨hs.limit, hs.offset⟩

theorem PageAttribute.ofJson_toJson {a : PageAttribute} (h : a.InRange) :
    ofJson a.toJson = .ok a := by
  obtain ⟨limit, offset, sortBy⟩ := a
  have hlimit : ∀ n, limit = some n →
      Json.natural "u32" Numeral.limitMax (.integer n) = .ok n :=
    fun n hn => Json.natural_integer (h.limit n hn) _
  have hoffset : ∀ n, offset = some n →
      Json.natural "u64" Numeral.countMax (.integer n) = .ok n :=
    fun n hn => Json.natural_integer (h.offset n hn) _
  cases limit <;> cases offset <;> cases sortBy <;>
    simp_all [toJson, ofJson, Json.optionalMember, Json.readRecord, Json.readMembers, Json.optional,
      Json.text, bind, Except.bind, Except.map]

/-! ### Requests -/

/-- The page of a request is in range, if it asks for one. -/
def PageAttribute.EachInRange (page : Option PageAttribute) : Prop :=
  ∀ a, page = some a → a.InRange

theorem Json.optional_pageAttribute {page : Option PageAttribute}
    (h : PageAttribute.EachInRange page) : ∀ a, page = some a →
      a.toJson.optional PageAttribute.ofJson = .ok (some a) := by
  intro a ha
  show (PageAttribute.ofJson a.toJson).map some = _
  rw [PageAttribute.ofJson_toJson (h a ha)]
  rfl

/-- The values of the conditions fulfil `P`, and the page is in range. -/
def FlatRequest.Each (P : ParamValue → Prop) (r : FlatRequest) : Prop :=
  (∀ p ∈ r.params, p.Each P) ∧ PageAttribute.EachInRange r.page

/-- The values of the groups fulfil `P`, and the page is in range. -/
def GroupedRequest.Each (P : ParamValue → Prop) (r : GroupedRequest) : Prop :=
  (∀ g ∈ r.groups, g.Each P) ∧ PageAttribute.EachInRange r.page

theorem FlatRequest.stable_ofJson {j : Json} (hj : j.WellFormed) {r : FlatRequest}
    (h : ofJson j = .ok r) : r.Each ParamValue.Stable := by
  refine Json.readRecord_preserves ?_ ⟨by simp, by simp [PageAttribute.EachInRange]⟩ h
  intro field hfield i hi s s' hs hput
  simp only [List.mem_cons, List.not_mem_nil, or_false] at hfield
  rcases hfield with rfl | rfl | rfl
  · obtain ⟨params, hparams, hput⟩ := bind_eq_ok.mp hput
    cases hput
    exact ⟨Param.stable_listOfJson (hj.of_mem_parts hi) hparams, hs.2⟩
  · obtain ⟨glue, -, hput⟩ := bind_eq_ok.mp hput
    cases hput
    exact hs
  · obtain ⟨page, hpage, hput⟩ := bind_eq_ok.mp hput
    cases hput
    refine ⟨hs.1, ?_⟩
    rintro a rfl
    exact PageAttribute.inRange_ofJson (Json.optional_eq_some hpage)

theorem FlatRequest.ofJson_toJson {r : FlatRequest} (h : r.Each ParamValue.Stable) :
    ofJson r.toJson = .ok r := by
  obtain ⟨params, glue, page⟩ := r
  have hparams := Param.listOfJson_toJson h.1
  have hpage := Json.optional_pageAttribute h.2
  cases page <;>
    simp_all [toJson, ofJson, Json.optionalMember, Json.readRecord, Json.readMembers,
      Glue.ofJson_toJson, bind, Except.bind]

theorem GroupedRequest.stable_ofJson {j : Json} (hj : j.WellFormed) {r : GroupedRequest}
    (h : ofJson j = .ok r) : r.Each ParamValue.Stable := by
  refine Json.readRecord_preserves ?_ ⟨by simp, by simp [PageAttribute.EachInRange]⟩ h
  intro field hfield i hi s s' hs hput
  simp only [List.mem_cons, List.not_mem_nil, or_false] at hfield
  rcases hfield with rfl | rfl | rfl
  · obtain ⟨items, hitems, hput⟩ := bind_eq_ok.mp hput
    obtain ⟨groups, hgroups, hput⟩ := bind_eq_ok.mp hput
    cases hput
    refine ⟨?_, hs.2⟩
    intro g hg
    obtain ⟨k, hk, hgroup⟩ := (mem_mapM hgroups).mp hg
    have hpart : k ∈ i.parts := Json.mem_parts_of_items hitems hk
    exact Group.stable_ofJson ((hj.of_mem_parts hi).of_mem_parts hpart) hgroup
  · obtain ⟨glue, -, hput⟩ := bind_eq_ok.mp hput
    cases hput
    exact hs
  · obtain ⟨page, hpage, hput⟩ := bind_eq_ok.mp hput
    cases hput
    refine ⟨hs.1, ?_⟩
    rintro a rfl
    exact PageAttribute.inRange_ofJson (Json.optional_eq_some hpage)

theorem GroupedRequest.ofJson_toJson {r : GroupedRequest} (h : r.Each ParamValue.Stable) :
    ofJson r.toJson = .ok r := by
  obtain ⟨groups, glue, page⟩ := r
  have hgroups : (groups.map Group.toJson).mapM Group.ofJson = .ok groups :=
    mapM_map_of_reads_back fun g hg => Group.ofJson_toJson (h.1 g hg)
  have hpage := Json.optional_pageAttribute h.2
  cases page <;>
    simp_all [toJson, ofJson, Json.optionalMember, Json.readRecord, Json.readMembers, Json.items,
      Glue.ofJson_toJson, bind, Except.bind]

/-! ### The wire -/

/-- What was read, and what was put together from plain values, comes back from its wire form. -/
structure SurvivesWire {α : Type} (decode : Json → Except DecodeError α) (encode : α → Json)
    (Each : (ParamValue → Prop) → α → Prop) : Prop where
  read {j : Json} {x : α} : j.WellFormed → decode j = .ok x → decode (encode x) = .ok x
  built {x : α} : Each ParamValue.Plain x → decode (encode x) = .ok x

/-- **Requests survive the wire**, and so do their conditions and groups: whatever well-formed JSON
they were read from, as objects or as arrays and to any depth, and whatever plain values they were
put together from. -/
theorem requests_survive_the_wire :
    SurvivesWire Param.ofJson Param.toJson Param.Each ∧
      SurvivesWire Group.ofJson Group.toJson Group.Each ∧
      SurvivesWire FlatRequest.ofJson FlatRequest.toJson FlatRequest.Each ∧
      SurvivesWire GroupedRequest.ofJson GroupedRequest.toJson GroupedRequest.Each := by
  have hparam : ∀ p : Param, p.Each ParamValue.Plain → p.Each ParamValue.Stable :=
    fun p h v hv => (h v hv).stable
  have hgroup : ∀ g : Group, g.Each ParamValue.Plain → g.Each ParamValue.Stable :=
    fun g h p hp => hparam p (h p hp)
  refine ⟨⟨?_, ?_⟩, ⟨?_, ?_⟩, ⟨?_, ?_⟩, ⟨?_, ?_⟩⟩
  · exact fun hj h => Param.ofJson_toJson (Param.stable_ofJson hj h)
  · exact fun h => Param.ofJson_toJson (hparam _ h)
  · exact fun hj h => Group.ofJson_toJson (Group.stable_ofJson hj h)
  · exact fun h => Group.ofJson_toJson (hgroup _ h)
  · exact fun hj h => FlatRequest.ofJson_toJson (FlatRequest.stable_ofJson hj h)
  · exact fun h => FlatRequest.ofJson_toJson ⟨fun p hp => hparam p (h.1 p hp), h.2⟩
  · exact fun hj h => GroupedRequest.ofJson_toJson (GroupedRequest.stable_ofJson hj h)
  · exact fun h => GroupedRequest.ofJson_toJson ⟨fun g hg => hgroup g (h.1 g hg), h.2⟩

/-- A request in array form with an empty group, an integer that is no long, and an object that is
almost a group. -/
theorem requests_survive_the_wire_from_array :
    let beyond : Json := .integer 0x8000000000000000
    let almost : Json := .object [("baseSearchParams", .array []), ("glue", .string "AND")]
    let j : Json := .array [
      .array [.array [.string "a", .array [], .string "nst:in"], .array [.string "b", beyond],
        .object [("value", almost), ("name", .string "c")]],
      .object [("or", .null)], .array [.integer 5]]
    let r : FlatRequest := ⟨
      [.withCode "a" "nst:in" (.group ⟨[], .and⟩),
        .equals "b" (.float (.ofInt 0x8000000000000000)), .equals "c" (.structured almost)],
      .or, some { limit := some 5 }⟩
    j.WellFormed ∧ FlatRequest.ofJson j = .ok r ∧ FlatRequest.ofJson r.toJson = .ok r := by
  intro beyond almost j r
  have hj : j.WellFormed := by
    simp [j, beyond, almost, Json.keepsInteger, Numeral.countMax]
  have hr : FlatRequest.ofJson j = .ok r := by
    unfold j r beyond almost
    rfl
  exact ⟨hj, hr, requests_survive_the_wire.2.2.1.read hj hr⟩

end FilterQuery
