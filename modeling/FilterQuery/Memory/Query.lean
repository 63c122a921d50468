import FilterQuery.Memory.Order
import FilterQuery.Memory.Predicate

/-!
# Queries in memory

A query answers with the positions of rows in the collection. Sorting is stable: rows that no sort
key tells apart stay in the order of the collection.
-/

namespace FilterQuery.Memory

/-- The rows with their positions that fulfil a filter, in the order of the collection. -/
def matching (rows : List Json) (p : Predicate) : List (Json × Nat) :=
  rows.zipIdx.filter fun row => p.holds rows row.1

/-- The positions of the rows that fulfil a filter. -/
def filter (rows : List Json) (p : Predicate) : List Nat :=
  (matching rows p).map (·.2)

/-- The rows that fulfil a filter, sorted by the keys. -/
def sorted (rows : List Json) (p : Predicate) (keys : List SortKey) : List (Json × Nat) :=
  (matching rows p).mergeSort fun a b => compareRows keys a.1 b.1 != .gt

/-- The positions of the rows that fulfil a filter, sorted and cut to the page. -/
def execute (rows : List Json) (p : Predicate) (page : Page) : List Nat :=
  (((sorted rows p page.orders).map (·.2)).drop page.offset).take page.limit

end FilterQuery.Memory
