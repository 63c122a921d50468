import FilterQuery.Json.Basic
import FilterQuery.Time.Instant

/-!
# Filter requests

A request names conditions on fields, glues them together with `and` or `or`, and may ask for a
page. A flat request is one list of conditions; a grouped request is a list of groups, each with a
glue of its own, under an outer glue. The value of a condition can again be a group, which then
filters a subquery.
-/

namespace FilterQuery

/-- How conditions are joined. -/
inductive Glue where
  | and
  | or
deriving DecidableEq, Repr, Inhabited

mutual

/-- The value of a parameter as it came in. Text is yet to be typed; all else has its type. -/
inductive ParamValue where
  | bool (b : Bool)
  | integer (i : Int)
  | float (x : Binary64)
  /-- A text of unknown type, or a list of such texts parted by commas. -/
  | text (s : String)
  | instant (i : Instant)
  | group (g : Group)
  | structured (j : Json)

/-- One condition of a request. -/
structure Param where
  name : String
  value : Option ParamValue
  /-- The operation code; none stands for equality. -/
  operation : Option String

/-- Conditions under one glue. -/
structure Group where
  params : List Param
  glue : Glue

end

/-! ### Equality -/

mutual

/-- Whether two values are the same. -/
def ParamValue.same : ParamValue → ParamValue → Bool
  | .bool a, .bool b => a == b
  | .integer i, .integer j => i == j
  | .float x, .float y => x == y
  | .text s, .text t => s == t
  | .instant i, .instant j => i == j
  | .group g, .group h => g.same h
  | .structured a, .structured b => a == b
  | _, _ => false
termination_by structural v => v

/-- Whether both values are absent, or both are there and the same. -/
def ParamValue.sameOption : Option ParamValue → Option ParamValue → Bool
  | none, none => true
  | some v, some w => v.same w
  | _, _ => false
termination_by structural v => v

/-- Whether two conditions are the same. -/
def Param.same : Param → Param → Bool
  | ⟨name, value, operation⟩, ⟨name', value', operation'⟩ =>
    name == name' && ParamValue.sameOption value value' && operation == operation'
termination_by structural p => p

/-- Whether two lists of conditions are the same. -/
def Param.sameAll : List Param → List Param → Bool
  | [], [] => true
  | p :: ps, q :: qs => p.same q && Param.sameAll ps qs
  | _, _ => false
termination_by structural ps => ps

/-- Whether two groups are the same. -/
def Group.same : Group → Group → Bool
  | ⟨params, glue⟩, ⟨params', glue'⟩ => Param.sameAll params params' && glue == glue'
termination_by structural g => g

end

mutual

/-- Values that are the same are equal, and equal values are the same. -/
theorem ParamValue.same_iff : (v w : ParamValue) → (v.same w = true ↔ v = w)
  | .bool _, w => by cases w <;> simp [ParamValue.same]
  | .integer _, w => by cases w <;> simp [ParamValue.same]
  | .float _, w => by cases w <;> simp [ParamValue.same]
  | .text _, w => by cases w <;> simp [ParamValue.same]
  | .instant _, w => by cases w <;> simp [ParamValue.same]
  | .group g, w => by cases w <;> simp [ParamValue.same, Group.same_iff g]
  | .structured _, w => by cases w <;> simp [ParamValue.same]

/-- Values that may be absent and are the same are equal. -/
theorem ParamValue.sameOption_iff : (v w : Option ParamValue) →
    (ParamValue.sameOption v w = true ↔ v = w)
  | none, w => by cases w <;> simp [ParamValue.sameOption]
  | some v, w => by cases w <;> simp [ParamValue.sameOption, ParamValue.same_iff v]

/-- Conditions that are the same are equal. -/
theorem Param.same_iff : (p q : Param) → (p.same q = true ↔ p = q)
  | ⟨_, v, _⟩, q => by cases q; simp [Param.same, ParamValue.sameOption_iff v, and_assoc]

/-- Lists of conditions that are the same are equal. -/
theorem Param.sameAll_iff : (ps qs : List Param) → (Param.sameAll ps qs = true ↔ ps = qs)
  | [], qs => by cases qs <;> simp [Param.sameAll]
  | p :: ps, qs => by cases qs <;> simp [Param.sameAll, Param.same_iff p, Param.sameAll_iff ps]

/-- Groups that are the same are equal. -/
theorem Group.same_iff : (g h : Group) → (g.same h = true ↔ g = h)
  | ⟨params, _⟩, h => by cases h; simp [Group.same, Param.sameAll_iff params]

end

instance : DecidableEq ParamValue := fun v w =>
  decidable_of_decidable_of_iff (ParamValue.same_iff v w)

instance : DecidableEq Param := fun p q => decidable_of_decidable_of_iff (Param.same_iff p q)

instance : DecidableEq Group := fun g h => decidable_of_decidable_of_iff (Group.same_iff g h)

instance : Inhabited Group := ⟨⟨[], .and⟩⟩

namespace Param

/-- The operation code as text; no code is the empty text. -/
def code (p : Param) : String :=
  p.operation.getD ""

/-- A condition with a code and a value. -/
def withCode (name code : String) (value : ParamValue) : Param :=
  ⟨name, some value, some code⟩

/-- A condition of equality. -/
def equals (name : String) (value : ParamValue) : Param :=
  ⟨name, some value, none⟩

/-- A condition with a code and without a value. -/
def bare (name code : String) : Param :=
  ⟨name, none, some code⟩

end Param

/-- What a request says about its page. What it leaves out is filled in later. -/
structure PageAttribute where
  limit : Option Nat := none
  offset : Option Nat := none
  sortBy : Option String := none
deriving DecidableEq, Repr, Inhabited

/-- The fields of `first`, and those of `second` where `first` has none. -/
def PageAttribute.or (first second : PageAttribute) : PageAttribute where
  limit := first.limit.or second.limit
  offset := first.offset.or second.offset
  sortBy := first.sortBy.or second.sortBy

/-- A request with one list of conditions. -/
structure FlatRequest where
  params : List Param := []
  glue : Glue := .and
  page : Option PageAttribute := none
deriving DecidableEq, Inhabited

/-- A request with groups of conditions. -/
structure GroupedRequest where
  groups : List Group := []
  glue : Glue := .and
  page : Option PageAttribute := none
deriving DecidableEq, Inhabited

/-- A request of either form. -/
inductive Request where
  | flat (request : FlatRequest)
  | grouped (request : GroupedRequest)
deriving DecidableEq, Inhabited

/-- Which way a sort key runs. -/
inductive Direction where
  | ascending
  | descending
deriving DecidableEq, Repr, Inhabited

/-- A field to sort by. -/
structure SortKey where
  field : String
  direction : Direction
deriving DecidableEq, Repr, Inhabited

/-- A page that leaves nothing open. -/
structure Page where
  offset : Nat
  limit : Nat
  /-- The sort keys, the most significant first. -/
  orders : List SortKey
deriving DecidableEq, Repr, Inhabited

/-- Whether the page leaves the rows in the order they come in. -/
def Page.isUnsorted (p : Page) : Bool :=
  p.orders.isEmpty

end FilterQuery
