import FilterQuery.FilterError
import FilterQuery.Request.Basic
import FilterQuery.Text.Blank

/-!
# Sort specifications

A sort specification lists field names between commas, with a minus sign before a name for
descending order. Blanks do not count, wherever they stand. A name is one or more ASCII letters and
must be allowed.
-/

namespace FilterQuery.SortSpecification

/-- The tokens of a specification. -/
def tokens (spec : List Char) : List (List Char) :=
  spec.splitOn ','

/-- The direction and the name that a token stands for, whatever the name. -/
def tokenKey : List Char → SortKey
  | '-' :: name => ⟨String.ofList name, .descending⟩
  | name => ⟨String.ofList name, .ascending⟩

/-- Whether a token is a name with or without the mark. -/
def isToken (token : List Char) : Bool :=
  let name := match token with
    | '-' :: name => name
    | name => name
  name ≠ [] && name.all Char.isAlpha

/-- The sort key of a token, whose field must be allowed. -/
def allowedKey (allowed : List String) (token : List Char) : Except FilterError SortKey :=
  let key := tokenKey token
  if allowed.contains key.field then .ok key else .error (.unknownField key.field)

/-- The sort keys of a specification. All tokens are checked before any field is looked up. -/
def resolve (allowed : List String) (spec : Option String) : Except FilterError (List SortKey) :=
  let text := (spec.getD "").toList.filter fun c => !Text.isBlank c
  if text = [] then .ok []
  else if (tokens text).all isToken then (tokens text).mapM (allowedKey allowed)
  else .error (.invalidTokens ((tokens text).map String.ofList))

/-- The specification that sort keys are written as. -/
def ofKeys (keys : List SortKey) : String :=
  String.intercalate "," (keys.map fun key =>
    match key.direction with
    | .ascending => key.field
    | .descending => "-" ++ key.field)

end FilterQuery.SortSpecification
