import FilterQuery.Memory.Comparison
import FilterQuery.Request.Basic

/-!
# The order of rows

Any two stored values have an order, so that rows can be sorted by any field. Kinds come first:
missing or null, booleans, numbers, instants, other texts, arrays, objects. Numbers are ordered as
doubles, then doubles before integers, then by the exact integer; arrays are all equal, and so are
objects.
-/

namespace FilterQuery.Memory

/-- The place of a number among numbers. -/
structure NumberRank where
  /-- The number as a double, by its place in the total order of doubles. -/
  double : Int
  /-- The number itself if it is an integer. -/
  exact : Option Int
deriving DecidableEq, Repr

/-- The order of numbers. -/
def NumberRank.order (a b : NumberRank) : Ordering :=
  (compare a.double b.double).then (compare a.exact b.exact)

/-- The place of a stored value among all values. -/
inductive SortRank where
  | missing
  | boolean (b : Bool)
  | number (n : NumberRank)
  /-- A text that is an instant, and the text. -/
  | instant (i : Instant) (s : String)
  | text (s : String)
  | array
  | object
deriving DecidableEq, Repr

namespace SortRank

/-- The place of the kind of a value. -/
def kind : SortRank → Nat
  | .missing => 0
  | .boolean _ => 1
  | .number _ => 2
  | .instant _ _ => 3
  | .text _ => 4
  | .array => 5
  | .object => 6

/-- The order of stored values. -/
def order : SortRank → SortRank → Ordering
  | .boolean a, .boolean b => compare a b
  | .number a, .number b => a.order b
  | .instant i s, .instant j t => (compare i j).then (compare s t)
  | .text s, .text t => compare s t
  | a, b => compare a.kind b.kind

/-- The place of a field's value. -/
def of : Option Json → SortRank
  | none | some .null => .missing
  | some (.bool b) => .boolean b
  | some (.integer i) => .number ⟨(Binary64.ofInt i).rank, some i⟩
  | some (.float x) => .number ⟨x.rank, none⟩
  | some (.string s) =>
    match Instant.read? s with
    | some i => .instant i s
    | none => .text s
  | some (.array _) => .array
  | some (.object _) => .object

end SortRank

/-- The order of two rows by one sort key. -/
def compareBy (key : SortKey) (a b : Json) : Ordering :=
  let o := (SortRank.of (a.member? key.field)).order (SortRank.of (b.member? key.field))
  match key.direction with
  | .ascending => o
  | .descending => o.swap

/-- The order of two rows by several sort keys, the first one that tells them apart. -/
def compareRows : List SortKey → Json → Json → Ordering
  | [], _, _ => .eq
  | key :: keys, a, b => (compareBy key a b).then (compareRows keys a b)

end FilterQuery.Memory
