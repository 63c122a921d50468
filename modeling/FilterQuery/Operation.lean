import FilterQuery.FilterError
import FilterQuery.Text.Blank

/-!
# Operations

The codes of a request. Most operations search, and become part of a filter; three carry the page
and never reach a filter. Some of the searching ones have a nested form, which compares a field
with what a subquery selects.
-/

namespace FilterQuery

/-- A way to compare two values. -/
inductive Comparison where
  | equal
  | notEqual
  | less
  | greater
  | atMost
  | atLeast
deriving DecidableEq, Repr, Inhabited

/-- Whether a comparison holds of a left side in this order to the right side. -/
def Comparison.accepts : Comparison → Ordering → Bool
  | .equal, o => o == .eq
  | .notEqual, o => o != .eq
  | .less, o => o == .lt
  | .greater, o => o == .gt
  | .atMost, o => o != .gt
  | .atLeast, o => o != .lt

/-- The code of a comparison. -/
def Comparison.code : Comparison → String
  | .equal => "eq"
  | .notEqual => "notEq"
  | .less => "lt"
  | .greater => "gt"
  | .atMost => "le"
  | .atLeast => "ge"

/-- An operation that becomes part of a filter. -/
inductive SearchOperation where
  | compare (c : Comparison)
  | like
  | member (negated : Bool)
  | isNull
  | contains
deriving DecidableEq, Repr, Inhabited

/-- The code of a searching operation. -/
def SearchOperation.code : SearchOperation → String
  | .compare c => c.code
  | .like => "like"
  | .member negated => if negated then "notIn" else "in"
  | .isNull => "isNull"
  | .contains => "contains"

/-- An operation that carries a part of the page. -/
inductive PagingOperation where
  | limit
  | offset
  | sortBy
deriving DecidableEq, Repr, Inhabited

/-- The code of a paging operation. -/
def PagingOperation.code : PagingOperation → String
  | .limit => "limit"
  | .offset => "offset"
  | .sortBy => "sortBy"

/-- What a code stands for. -/
inductive Operation where
  | search (operation : SearchOperation)
  | paging (operation : PagingOperation)
deriving DecidableEq, Repr, Inhabited

/-- What an operation is for. -/
inductive Purpose where
  | searching
  | paging
deriving DecidableEq, Repr, Inhabited

/-- The word for a purpose. -/
def Purpose.toText : Purpose → String
  | .searching => "SEARCHING"
  | .paging => "PAGING"

/-- Reads a purpose. -/
def Purpose.ofJson : Json → Except DecodeError Purpose :=
  Json.word [("SEARCHING", .searching), ("PAGING", .paging)]

namespace Operation

/-- What an operation is for. -/
def purpose : Operation → Purpose
  | .search _ => .searching
  | .paging _ => .paging

/-- The code of an operation. -/
def code : Operation → String
  | .search operation => operation.code
  | .paging operation => operation.code

/-- All operations. -/
def all : List Operation :=
  [.search (.compare .equal), .search (.compare .notEqual), .search .like,
    .search (.member false), .search (.member true), .search .isNull,
    .search (.compare .less), .search (.compare .greater),
    .search (.compare .atMost), .search (.compare .atLeast), .search .contains,
    .paging .limit, .paging .offset, .paging .sortBy]

/-- The operation with a code, letter for letter. A blank code stands for equality. -/
def ofCode? (code : String) : Option Operation :=
  if Text.isAllBlank code then some (.search (.compare .equal))
  else all.find? (·.code == code)

/-- The operation that a code must stand for. -/
def ofCode (code : String) : Except FilterError Operation :=
  match ofCode? code with
  | some operation => .ok operation
  | none => .error (.unknownOperation code)

theorem ofCode_eq_ok {code : String} {operation : Operation} :
    ofCode code = .ok operation ↔ ofCode? code = some operation := by
  unfold ofCode
  cases ofCode? code <;> simp

/-- The paging operation with a code, if it is one. -/
def pagingOfCode? (code : String) : Option PagingOperation :=
  match ofCode? code with
  | some (.paging operation) => some operation
  | _ => none

end Operation

/-- An operation on a field and what a subquery selects. -/
inductive NestedOperation where
  /-- The field compares so with the one value selected. -/
  | compare (c : Comparison)
  | member (negated : Bool)
  /-- The field is null, whatever the subquery selects. -/
  | isNull
deriving DecidableEq, Repr, Inhabited

namespace NestedOperation

/-- The flat operation of the same code. -/
def flat : NestedOperation → SearchOperation
  | .compare c => .compare c
  | .member negated => .member negated
  | .isNull => .isNull

/-- The code of a nested operation, without the mark of nesting. -/
def code (operation : NestedOperation) : String :=
  operation.flat.code

/-- The nested operation that a code, without the mark of nesting, must stand for. -/
def ofCode (code : String) : Except FilterError NestedOperation :=
  match Operation.ofCode? code with
  | some (.search (.compare c)) => .ok (.compare c)
  | some (.search (.member negated)) => .ok (.member negated)
  | some (.search .isNull) => .ok .isNull
  | _ => .error (.unsupportedNestedOperation code)

end NestedOperation

end FilterQuery
