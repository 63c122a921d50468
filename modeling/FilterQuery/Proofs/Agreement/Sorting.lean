import FilterQuery.Document.Filter
import FilterQuery.Memory.Query
import FilterQuery.Proofs.Memory.Order
import FilterQuery.Proofs.Sql.Statement
import FilterQuery.SortSpecification
import Mathlib.Data.List.Induction
import Mathlib.Data.List.Nodup
import Mathlib.Logic.Function.Basic

/-!
# The backends sort alike, but for repeated fields

A list of sort keys may name a field more than once. In memory and in SQL the first key on a field
decides, and the later ones come too late to tell any rows apart (`compareRows_firstKeys`). The sort
document keeps one member for each field, in the place of the first key but with the direction of
the last (`sortMembers_eq`).

So all three sort the same way if and only if the first and the last key on each field agree.
-/

namespace FilterQuery

/-! ### Sort keys field by field -/

/-- The fields of sort keys, in the order of their first places. -/
def sortFields (keys : List SortKey) : List String :=
  (keys.map (·.field)).eraseDups

/-- The direction of the first key on a field; ascending if there is none. -/
def firstDirection (keys : List SortKey) (field : String) : Direction :=
  match keys.find? (·.field == field) with
  | some key => key.direction
  | none => .ascending

/-- The direction of the last key on a field; ascending if there is none. -/
def lastDirection (keys : List SortKey) : String → Direction :=
  firstDirection keys.reverse

/-- One sort key for each field. -/
def keysOn (fields : List String) (direction : String → Direction) : List SortKey :=
  fields.map fun field => ⟨field, direction field⟩

/-- The sort keys without those that repeat a field. -/
def firstKeys (keys : List SortKey) : List SortKey :=
  keysOn (sortFields keys) (firstDirection keys)

/-- The sort keys where a repeated field has its first place and its last direction. -/
def lastKeys (keys : List SortKey) : List SortKey :=
  keysOn (sortFields keys) (lastDirection keys)

theorem mem_sortFields {keys : List SortKey} {field : String} :
    field ∈ sortFields keys ↔ ∃ key ∈ keys, key.field = field := by
  rw [sortFields, List.mem_eraseDups, List.mem_map]

theorem sortFields_concat (keys : List SortKey) (key : SortKey) :
    sortFields (keys ++ [key]) =
      if key.field ∈ sortFields keys then sortFields keys else sortFields keys ++ [key.field] := by
  have hadd : sortFields (keys ++ [key]) =
      sortFields keys ++ ([key.field].removeAll (keys.map (·.field))).eraseDups := by
    unfold sortFields
    rw [List.map_append, List.eraseDups_append]
    rfl
  by_cases hfield : key.field ∈ sortFields keys
  · have hold : [key.field].removeAll (keys.map (·.field)) = [] := by
      simpa [List.removeAll] using mem_sortFields.mp hfield
    rw [hadd, hold, if_pos hfield, List.eraseDups_nil, List.append_nil]
  · have hnew : [key.field].removeAll (keys.map (·.field)) = [key.field] := by
      simpa [List.removeAll, mem_sortFields] using hfield
    rw [hadd, hnew, if_neg hfield]
    rfl

theorem nodup_sortFields (keys : List SortKey) : (sortFields keys).Nodup := by
  induction keys using List.reverseRecOn with
  | nil => exact List.nodup_nil
  | append_singleton keys key ih =>
    rw [sortFields_concat]
    split
    · exact ih
    · next hfield => exact List.nodup_append_comm.mp (List.nodup_cons.mpr ⟨hfield, ih⟩)

theorem firstDirection_cons (key : SortKey) (keys : List SortKey) :
    firstDirection (key :: keys) =
      Function.update (firstDirection keys) key.field key.direction := by
  funext field
  unfold firstDirection
  by_cases hfield : field = key.field
  · subst hfield
    simp
  · rw [Function.update_of_ne hfield, List.find?_cons_of_neg (by simpa using Ne.symm hfield)]

theorem lastDirection_concat (keys : List SortKey) (key : SortKey) :
    lastDirection (keys ++ [key]) =
      Function.update (lastDirection keys) key.field key.direction := by
  unfold lastDirection
  rw [List.reverse_concat, firstDirection_cons]

/-- Later keys change nothing for the fields that are there. -/
theorem firstDirection_append_of_mem {keys : List SortKey} {field : String}
    (hfield : field ∈ sortFields keys) (more : List SortKey) :
    firstDirection (keys ++ more) field = firstDirection keys field := by
  obtain ⟨key, hkey, hname⟩ := mem_sortFields.mp hfield
  obtain ⟨found, hfound⟩ : ∃ found, keys.find? (·.field == field) = some found :=
    Option.isSome_iff_exists.mp (List.find?_isSome.mpr ⟨key, hkey, by simp [hname]⟩)
  unfold firstDirection
  rw [List.find?_append, hfound]
  rfl

theorem firstDirection_append_of_not_mem {keys : List SortKey} {field : String}
    (hfield : field ∉ sortFields keys) (more : List SortKey) :
    firstDirection (keys ++ more) field = firstDirection more field := by
  have hnone : keys.find? (·.field == field) = none := by
    rw [List.find?_eq_none]
    intro key hkey hname
    exact hfield (mem_sortFields.mpr ⟨key, hkey, by simpa using hname⟩)
  unfold firstDirection
  rw [List.find?_append, hnone]
  rfl

theorem firstKeys_concat (keys : List SortKey) (key : SortKey) :
    firstKeys (keys ++ [key]) =
      if key.field ∈ sortFields keys then firstKeys keys else firstKeys keys ++ [key] := by
  have hold : ∀ field ∈ sortFields keys,
      (⟨field, firstDirection (keys ++ [key]) field⟩ : SortKey) =
        ⟨field, firstDirection keys field⟩ :=
    fun field hfield => by rw [firstDirection_append_of_mem hfield]
  unfold firstKeys keysOn
  rw [sortFields_concat]
  split
  · exact List.map_congr_left hold
  · next hnew =>
    have hlast : firstDirection (keys ++ [key]) key.field = key.direction := by
      rw [firstDirection_append_of_not_mem hnew, firstDirection_cons, Function.update_self]
    rw [List.map_append, List.map_congr_left hold, List.map_singleton, hlast]

theorem firstDirection_keysOn {fields : List String} {field : String} (hfield : field ∈ fields)
    (direction : String → Direction) :
    firstDirection (keysOn fields direction) field = direction field := by
  induction fields with
  | nil => cases hfield
  | cons other fields ih =>
    show firstDirection (⟨other, direction other⟩ :: keysOn fields direction) field = _
    rw [firstDirection_cons]
    by_cases hsame : field = other
    · subst hsame
      exact Function.update_self ..
    · rw [Function.update_of_ne hsame]
      exact ih (List.mem_of_ne_of_mem hsame hfield)

/-! ### Documents -/

/-- Setting a member of an object whose members are the values of a function. -/
theorem Json.setMember_map {names : List String} (hnames : names.Nodup) (value : String → Json)
    (name : String) (new : Json) :
    Json.setMember (names.map fun n => (n, value n)) name new =
      (if name ∈ names then names else names ++ [name]).map fun n =>
        (n, Function.update value name new n) := by
  induction names with
  | nil => simp [Json.setMember]
  | cons other names ih =>
    obtain ⟨hother, hnames⟩ := List.nodup_cons.mp hnames
    rw [List.map_cons, Json.setMember]
    by_cases hsame : other = name
    · subst hsame
      have hrest : ∀ n ∈ names, (n, value n) = (n, Function.update value other new n) := by
        intro n hn
        rw [Function.update_of_ne (by rintro rfl; exact hother hn)]
      rw [if_pos rfl, if_pos List.mem_cons_self, List.map_cons, Function.update_self,
        List.map_congr_left hrest]
    · have hmem : name ∈ other :: names ↔ name ∈ names := by
        simp [Ne.symm hsame]
      have hhead : (other, Function.update value name new other) = (other, value other) := by
        rw [Function.update_of_ne hsame]
      rw [if_neg hsame, ih hnames]
      by_cases hname : name ∈ names
      · rw [if_pos hname, if_pos (hmem.mpr hname), List.map_cons, hhead]
      · rw [if_neg hname, if_neg (fun h => hname (hmem.mp h)), List.cons_append, List.map_cons,
          hhead]

namespace Document

/-- A direction in a sort document. -/
def directionJson : Direction → Json
  | .ascending => .integer 1
  | .descending => .integer (-1)

/-- The sort key that a member of a sort document stands for. -/
def sortKey? : String × Json → Option SortKey
  | (field, .integer i) =>
    if i = 1 then some ⟨field, .ascending⟩
    else if i = -1 then some ⟨field, .descending⟩
    else none
  | _ => none

/-- The sort keys of a query, in the order of the sort document. -/
def sortKeys? (query : Json) : Option (List SortKey) :=
  match query.member? "sort" with
  | some (.object members) => members.mapM sortKey?
  | _ => none

theorem sortMembers_concat (keys : List SortKey) (key : SortKey) :
    sortMembers (keys ++ [key]) =
      Json.setMember (sortMembers keys) key.field (directionJson key.direction) := by
  obtain ⟨field, direction⟩ := key
  unfold sortMembers
  rw [List.foldl_append]
  cases direction <;> rfl

/-- **The sort document has one member for each field**, in the order of the first keys, and with
the direction of the last. -/
theorem sortMembers_eq (keys : List SortKey) :
    sortMembers keys =
      (sortFields keys).map fun field => (field, directionJson (lastDirection keys field)) := by
  induction keys using List.reverseRecOn with
  | nil => rfl
  | append_singleton keys key ih =>
    have hlast : Function.update (fun field => directionJson (lastDirection keys field)) key.field
        (directionJson key.direction) =
          fun field => directionJson (lastDirection (keys ++ [key]) field) := by
      rw [lastDirection_concat]
      exact (Function.comp_update directionJson _ _ _).symm
    rw [sortMembers_concat, ih, Json.setMember_map (nodup_sortFields keys), sortFields_concat,
      hlast]

theorem sortKey?_directionJson (field : String) (direction : Direction) :
    sortKey? (field, directionJson direction) = some ⟨field, direction⟩ := by
  cases direction <;> rfl

theorem sortKeys?_query (filter : Json) (page : Page) :
    sortKeys? (query filter page) = some (lastKeys page.orders) := by
  show (sortMembers page.orders).mapM sortKey? = some (lastKeys page.orders)
  rw [sortMembers_eq]
  unfold lastKeys keysOn
  induction sortFields page.orders with
  | nil => rfl
  | cons field fields ih =>
    rw [List.map_cons, List.mapM_cons, ih, sortKey?_directionJson]
    rfl

end Document

/-! ### Memory -/

namespace Memory

theorem compareRows_singleton (key : SortKey) (a b : Json) :
    compareRows [key] a b = compareBy key a b :=
  Ordering.then_eq ..

theorem compareBy_eq_eq {key key' : SortKey} (hfield : key.field = key'.field) {a b : Json} :
    compareBy key a b = .eq ↔ compareBy key' a b = .eq := by
  obtain ⟨field, direction⟩ := key
  obtain ⟨field', direction'⟩ := key'
  obtain rfl : field = field' := hfield
  cases direction <;> cases direction' <;> simp [compareBy, Ordering.swap_eq_eq]

/-- Keys that do not tell two rows apart do not do so in other directions. -/
theorem compareBy_eq_of_eq {keys : List SortKey} {a b : Json} (h : compareRows keys a b = .eq)
    {key : SortKey} (hkey : key.field ∈ sortFields keys) : compareBy key a b = .eq := by
  obtain ⟨other, hother, hfield⟩ := mem_sortFields.mp hkey
  exact (compareBy_eq_eq hfield).mp (compareRows_eq_eq.mp h other hother)

/-- **The first key on a field decides**: keys that repeat a field may be left out. -/
theorem compareRows_firstKeys (keys : List SortKey) (a b : Json) :
    compareRows (firstKeys keys) a b = compareRows keys a b := by
  induction keys using List.reverseRecOn with
  | nil => rfl
  | append_singleton keys key ih =>
    rw [firstKeys_concat, compareRows_append, compareRows_singleton]
    split
    -- a repeated field: rows that the keys before leave equal are equal in it, too
    · next hfield =>
      rw [ih]
      cases h : compareRows keys a b with
      | eq => exact (compareBy_eq_of_eq h hfield).symm
      | lt => rfl
      | gt => rfl
    · rw [compareRows_append, compareRows_singleton, ih]

theorem execute_congr {keys keys' : List SortKey}
    (h : ∀ a b, compareRows keys a b = compareRows keys' a b) (rows : List Json) (p : Predicate)
    (offset limit : Nat) :
    execute rows p ⟨offset, limit, keys⟩ = execute rows p ⟨offset, limit, keys'⟩ := by
  have hsorted : sorted rows p keys = sorted rows p keys' := by
    unfold sorted
    simp only [h]
  unfold execute
  rw [hsorted]

/-! ### Two rows that differ in one field -/

/-- A row where a field is false, and one where it is true. -/
def rowsOn (field : String) : List Json :=
  [.object [(field, .bool false)], .object [(field, .bool true)]]

theorem compareRows_rowsOn {keys : List SortKey} {field : String}
    (hfield : field ∈ sortFields keys) :
    compareRows keys (.object [(field, .bool false)]) (.object [(field, .bool true)]) =
      match firstDirection keys field with
      | .ascending => .lt
      | .descending => .gt := by
  induction keys with
  | nil => cases hfield
  | cons key keys ih =>
    rw [firstDirection_cons, compareRows]
    obtain ⟨other, direction⟩ := key
    by_cases hsame : other = field
    · subst hsame
      rw [Function.update_self]
      cases direction <;> simp [compareBy, Json.member?, SortRank.of, SortRank.order] <;> rfl
    · have hkeys : field ∈ sortFields keys := by
        simpa [mem_sortFields, hsame] using hfield
      have hmissing : ∀ b, (Json.object [(field, .bool b)]).member? other = none := by
        intro b
        simp [Json.member?, List.lookup_cons, beq_false_of_ne hsame]
      have hequal : compareBy ⟨other, direction⟩ (.object [(field, .bool false)])
          (.object [(field, .bool true)]) = .eq := by
        unfold compareBy
        simp only [hmissing]
        cases direction <;> rfl
      rw [hequal, Function.update_of_ne (Ne.symm hsame)]
      exact ih hkeys

/-- On these rows the first key on the field tells the order. -/
theorem execute_rowsOn {keys : List SortKey} {field : String} (hfield : field ∈ sortFields keys) :
    execute (rowsOn field) (.condition .everything) ⟨0, 2, keys⟩ =
      match firstDirection keys field with
      | .ascending => [0, 1]
      | .descending => [1, 0] := by
  have hcompare := compareRows_rowsOn hfield
  have hmatching : matching (rowsOn field) (.condition .everything) =
      [(.object [(field, .bool false)], 0), (.object [(field, .bool true)], 1)] := rfl
  unfold execute sorted
  rw [hmatching]
  cases hdirection : firstDirection keys field with
  | ascending =>
    rw [hdirection] at hcompare
    simp [List.mergeSort, List.MergeSort.Internal.splitInTwo, hcompare]
  | descending =>
    rw [hdirection] at hcompare
    simp [List.mergeSort, List.MergeSort.Internal.splitInTwo, hcompare]

end Memory

/-! ### All three -/

/-- With the last direction of each field, keys sort all rows as before if and only if it is the
first one, too. -/
theorem execute_lastKeys_iff (keys : List SortKey) :
    (∀ rows p offset limit, Memory.execute rows p ⟨offset, limit, lastKeys keys⟩ =
        Memory.execute rows p ⟨offset, limit, keys⟩) ↔
      ∀ field, firstDirection keys field = lastDirection keys field := by
  constructor
  · intro h field
    by_cases hfield : field ∈ sortFields keys
    -- two rows that differ in this field alone tell its direction
    · have hlast : firstDirection (lastKeys keys) field = lastDirection keys field :=
        firstDirection_keysOn hfield _
      have hfield' : field ∈ sortFields (lastKeys keys) :=
        mem_sortFields.mpr ⟨_, List.mem_map_of_mem hfield, rfl⟩
      have hrows := h (Memory.rowsOn field) (.condition .everything) 0 2
      rw [Memory.execute_rowsOn hfield, Memory.execute_rowsOn hfield', hlast] at hrows
      revert hrows
      cases firstDirection keys field <;> cases lastDirection keys field <;> simp
    -- without a key on the field, both directions are the one for no key
    · have hfield' : field ∉ sortFields keys.reverse := by
        simpa [mem_sortFields] using hfield
      have hfirst := firstDirection_append_of_not_mem hfield []
      have hlast := firstDirection_append_of_not_mem hfield' []
      rw [List.append_nil] at hfirst hlast
      exact hfirst.trans hlast.symm
  · intro h rows p offset limit
    have hkeys : lastKeys keys = firstKeys keys := by
      unfold lastKeys firstKeys
      rw [funext h]
    rw [hkeys]
    exact Memory.execute_congr (Memory.compareRows_firstKeys keys) rows p offset limit

/-- **The backends sort alike, but for repeated fields.** The sort keys of a page stand in the SQL
text as they came, and in the sort document as one key for each field, with its last direction. In
memory the first key on a field decides. So the sort document orders all rows as the list of keys
does if and only if the first and the last key on each field have one direction. -/
theorem backends_sort_alike_but_for_repeats (s : Sql.Selection) (p : Sql.Predicate) (filter : Json)
    (page : Page) :
    (Sql.Statement.ofText? (s.statement p page).sql).bind Sql.Statement.sortKeys? =
        some page.orders ∧
      Document.sortKeys? (Document.query filter page) = some (lastKeys page.orders) ∧
      (∀ rows q offset limit, Memory.execute rows q ⟨offset, limit, firstKeys page.orders⟩ =
        Memory.execute rows q ⟨offset, limit, page.orders⟩) ∧
      ((∀ rows q offset limit, Memory.execute rows q ⟨offset, limit, lastKeys page.orders⟩ =
          Memory.execute rows q ⟨offset, limit, page.orders⟩) ↔
        ∀ field, firstDirection page.orders field = lastDirection page.orders field) := by
  refine ⟨s.sortKeys?_statement p page, Document.sortKeys?_query filter page, ?_,
    execute_lastKeys_iff page.orders⟩
  exact Memory.execute_congr (Memory.compareRows_firstKeys page.orders)

/-- A specification that sorts by a name up and then down: the sort document runs down. -/
theorem backends_sort_unlike_beside_repeat :
    let keys : List SortKey := [⟨"name", .ascending⟩, ⟨"name", .descending⟩]
    SortSpecification.resolve ["name"] (some "name,-name") = .ok keys ∧
      Document.sortKeys? (Document.query Document.everything ⟨0, 200, keys⟩) =
        some [⟨"name", .descending⟩] ∧
      ∃ rows q offset limit, Memory.execute rows q ⟨offset, limit, [⟨"name", .descending⟩]⟩ ≠
        Memory.execute rows q ⟨offset, limit, keys⟩ := by
  intro keys
  have hsort := backends_sort_alike_but_for_repeats ⟨"rows", []⟩ .everything Document.everything
    ⟨0, 200, keys⟩
  have hlast : lastKeys keys = [⟨"name", .descending⟩] := by decide
  obtain ⟨-, hdocument, -, hagree⟩ := hsort
  rw [hlast] at hdocument hagree
  refine ⟨?_, hdocument, ?_⟩
  · decide
  · by_contra hnone
    have hname := hagree.mp (fun rows q offset limit =>
      by_contra fun h => hnone ⟨rows, q, offset, limit, h⟩) "name"
    exact absurd hname (by decide)

end FilterQuery
