import FilterQuery.Request.Basic
import FilterQuery.Json.Printer

/-!
# Requests as JSON

The wire form of requests and pages. What is absent is left out, and a number that JSON cannot
express becomes `null`.
-/

namespace FilterQuery

/-- The word for a glue. -/
def Glue.toText : Glue → String
  | .and => "AND"
  | .or => "OR"

/-- The wire form of a glue. -/
def Glue.toJson (g : Glue) : Json :=
  .string g.toText

/-- A member that is left out if it has no value. -/
def Json.optionalMember (name : String) : Option Json → List (String × Json)
  | none => []
  | some value => [(name, value)]

mutual

/-- The wire form of a value. -/
def ParamValue.toJson : ParamValue → Json
  | .bool b => .bool b
  | .integer i => .integer i
  | .float x => .ofDouble x
  | .text s => .string s
  | .instant i => .string i.toJsonText
  | .group g => g.toJson
  | .structured j => j

/-- The wire form of a condition. -/
def Param.toJson : Param → Json
  | ⟨name, none, operation⟩ =>
    .object (("name", .string name) :: Json.optionalMember "operation" (operation.map .string))
  | ⟨name, some value, operation⟩ =>
    .object (("name", .string name) :: ("value", value.toJson)
      :: Json.optionalMember "operation" (operation.map .string))

/-- The wire form of a group. -/
def Group.toJson : Group → Json
  | ⟨params, glue⟩ =>
    .object [("baseSearchParams", .array (Param.listToJson params)), ("internalGlue", glue.toJson)]

/-- The wire forms of conditions. -/
def Param.listToJson : List Param → List Json
  | [] => []
  | p :: ps => p.toJson :: Param.listToJson ps

end

/-- The wire form of what a request says about its page. -/
def PageAttribute.toJson (p : PageAttribute) : Json :=
  .object (Json.optionalMember "limit" (p.limit.map fun n => .integer n) ++
    Json.optionalMember "offset" (p.offset.map fun n => .integer n) ++
    Json.optionalMember "sortBy" (p.sortBy.map .string))

/-- The wire form of a flat request. -/
def FlatRequest.toJson (r : FlatRequest) : Json :=
  .object ([("baseSearchParams", .array (Param.listToJson r.params)), ("glue", r.glue.toJson)] ++
    Json.optionalMember "pageAttribute" (r.page.map PageAttribute.toJson))

/-- The wire form of a grouped request. -/
def GroupedRequest.toJson (r : GroupedRequest) : Json :=
  .object ([("search", .array (r.groups.map Group.toJson)), ("externalGlue", r.glue.toJson)] ++
    Json.optionalMember "pageAttribute" (r.page.map PageAttribute.toJson))

/-- The word for a direction. -/
def Direction.toText : Direction → String
  | .ascending => "ASC"
  | .descending => "DESC"

/-- The wire form of a sort key. -/
def SortKey.toJson (k : SortKey) : Json :=
  .object [("field", .string k.field), ("direction", .string k.direction.toText)]

/-- The wire form of a page. -/
def Page.toJson (p : Page) : Json :=
  .object [("offset", .integer p.offset), ("limit", .integer p.limit),
    ("orders", .array (p.orders.map SortKey.toJson))]

end FilterQuery
