import FilterQuery.Backend

/-!
# Document filters

Filters in the query language of document stores, as JSON: an object with a field's name maps it to
a test, and objects with `$and`, `$or` or `$nor` join filters. There are no subqueries.
-/

namespace FilterQuery.Document

/-- A scalar in a document. -/
def scalarJson : Scalar → Json
  | .string s => .string s
  | .long i => .integer i
  | .double x => .ofDouble x
  | .boolean b => .bool b
  | .instant i => .object [("$date", .string i.toText)]

/-- The filter that every document fulfils. -/
def everything : Json := .object []

/-- The filter that no document fulfils. -/
def nothing : Json := .object [("$nor", .array [everything])]

/-- The operator that joins filters. -/
def joinOperator : Glue → String
  | .and => "$and"
  | .or => "$or"

/-- Filters under a glue: no filter asks for nothing, and a single one stands for itself. -/
def glueFilters (glue : Glue) : List Json → Json
  | [] => everything
  | [filter] => filter
  | filters => .object [(joinOperator glue, .array filters)]

/-- The operator of a comparison. -/
def comparisonOperator : Comparison → String
  | .equal => "$eq"
  | .notEqual => "$ne"
  | .less => "$lt"
  | .greater => "$gt"
  | .atMost => "$lte"
  | .atLeast => "$gte"

/-- The filter that a field fulfils a test. -/
def test (field operator : String) (operand : Json) : Json :=
  .object [(field, .object [(operator, operand)])]

/-- The filter that a field matches a regular expression, in any case. -/
def regexTest (field : String) (regex : List Char) : Json :=
  .object [(field, .object [("$regex", .string (String.ofList regex)), ("$options", .string "i")])]

/-- The filter of a condition. -/
def ofCondition : Condition → Json
  | .everything => everything
  | .nothing => nothing
  | .compare field c value => test field (comparisonOperator c) (scalarJson value)
  | .member field negated values =>
    test field (if negated then "$nin" else "$in") (.array (values.map scalarJson))
  | .isNull field => .object [(field, .null)]
  | .like field pattern => regexTest field (Pattern.regex pattern.toList)
  | .contains field tokens =>
    glueFilters .and (tokens.map fun token => regexTest field (Pattern.literalRegex token.toList))

/-- The name of this backend in errors. -/
def backendName : String := "document"

/-- Filters as JSON for a document store. -/
def backend : Backend Json where
  condition c := .ok (ofCondition c)
  everything := everything
  nothing := nothing
  conjunction := glueFilters .and
  disjunction := glueFilters .or
  nested _ _ _ := .error (.nestedNotSupported backendName)

/-! ### Queries -/

/-- The sort document of a page: a repeated field keeps its first place and takes its last
direction. -/
def sortMembers (orders : List SortKey) : List (String × Json) :=
  orders.foldl (fun members key =>
    Json.setMember members key.field
      (.integer (match key.direction with | .ascending => 1 | .descending => -1))) []

/-- A whole query. -/
def query (filter : Json) (page : Page) : Json :=
  .object [("filter", filter), ("sort", .object (sortMembers page.orders)),
    ("skip", .integer page.offset), ("limit", .integer page.limit)]

end FilterQuery.Document
