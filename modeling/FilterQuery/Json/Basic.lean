import FilterQuery.Numeral.Integer
import FilterQuery.Numeral.Text

/-!
# JSON values

Rows, document filters and request bodies are JSON. Members keep their order, and an integer stays
an integer: between `-(2 ^ 63)` and `2 ^ 64 - 1` it is never turned into a double.
-/

namespace FilterQuery

/-- A JSON value. -/
inductive Json where
  | null
  | bool (b : Bool)
  /-- A number written without fraction and exponent, in the range of 64 bits. -/
  | integer (i : Int)
  | float (x : Binary64)
  | string (s : String)
  | array (items : List Json)
  | object (members : List (String × Json))
deriving Inhabited

namespace Json

/-! ### Equality -/

mutual

/-- Whether two values are the same, element by element in order. -/
def same : Json → Json → Bool
  | .null, .null => true
  | .bool a, .bool b => a == b
  | .integer i, .integer j => i == j
  | .float x, .float y => x == y
  | .string s, .string t => s == t
  | .array items, .array others => sameItems items others
  | .object members, .object others => sameMembers members others
  | _, _ => false

/-- Whether two lists of values are the same. -/
def sameItems : List Json → List Json → Bool
  | [], [] => true
  | a :: items, b :: others => a.same b && sameItems items others
  | _, _ => false

/-- Whether two lists of members are the same. -/
def sameMembers : List (String × Json) → List (String × Json) → Bool
  | [], [] => true
  | (m, a) :: members, (n, b) :: others => m == n && a.same b && sameMembers members others
  | _, _ => false

end

mutual

/-- Values that are the same are equal, and equal values are the same. -/
theorem same_iff : (a b : Json) → (a.same b = true ↔ a = b)
  | .null, b => by cases b <;> simp [same]
  | .bool _, b => by cases b <;> simp [same]
  | .integer _, b => by cases b <;> simp [same]
  | .float _, b => by cases b <;> simp [same]
  | .string _, b => by cases b <;> simp [same]
  | .array items, b => by cases b <;> simp [same, sameItems_iff items]
  | .object members, b => by cases b <;> simp [same, sameMembers_iff members]

/-- Lists of values that are the same are equal. -/
theorem sameItems_iff : (items others : List Json) →
    (sameItems items others = true ↔ items = others)
  | [], others => by cases others <;> simp [sameItems]
  | a :: items, others => by
    cases others <;> simp [sameItems, same_iff a, sameItems_iff items]

/-- Lists of members that are the same are equal. -/
theorem sameMembers_iff : (members others : List (String × Json)) →
    (sameMembers members others = true ↔ members = others)
  | [], others => by cases others <;> simp [sameMembers]
  | (_, a) :: members, others => by
    cases others <;> simp [sameMembers, same_iff a, sameMembers_iff members, Prod.ext_iff]

end

instance : DecidableEq Json := fun a b => decidable_of_decidable_of_iff (same_iff a b)

/-! ### Members and numbers -/

/-- Whether this is `null`. -/
def isNull : Json → Bool
  | .null => true
  | _ => false

/-- Whether an integer keeps its digits as a JSON number: it fits 64 bits, with or without sign. -/
def keepsInteger (i : Int) : Bool :=
  -0x8000000000000000 ≤ i && i ≤ Numeral.countMax

/-- The member of an object with a name. -/
def member? (name : String) : Json → Option Json
  | .object members => members.lookup name
  | _ => none

/-- The members with `name` given a value: in its old place if there is one, else at the end. -/
def setMember (members : List (String × Json)) (name : String) (value : Json) :
    List (String × Json) :=
  match members with
  | [] => [(name, value)]
  | (key, old) :: rest =>
    if key = name then (name, value) :: rest else (key, old) :: setMember rest name value

/-- A double as JSON; JSON has no infinities and no not-a-number. -/
def ofDouble (x : Binary64) : Json :=
  if x.isFinite then .float x else .null

/-- The number of a JSON number as a double: integers are rounded to the nearest. -/
def asDouble? : Json → Option Binary64
  | .integer i => some (.ofInt i)
  | .float x => some x
  | _ => none

end Json

end FilterQuery
