import FilterQuery.Json.Decode
import FilterQuery.Scalar

/-!
# Why a request cannot be planned

One cause for each way a request can be wrong, and the text of each in one place.
-/

namespace FilterQuery

/-- Why the value of a nested operation is no group. -/
inductive NestedFault where
  | missing
  | scalar (text : String)
  | malformed (cause : DecodeError)
deriving DecidableEq, Repr

/-- The text of a fault. -/
def NestedFault.message : NestedFault → String
  | .missing => "missing filter group"
  | .scalar text => "expected a filter group, found '" ++ text ++ "'"
  | .malformed cause => cause.message

/-- Why a request cannot be planned. -/
inductive FilterError where
  | unknownOperation (code : String)
  | unsupportedNestedOperation (code : String)
  | nestedNotSupported (backend : String)
  | nestingTooDeep (depth max : Nat)
  | noMatchingType (value : String)
  | castFailed (value : String) (type : ScalarType)
  | missingValue (field : String)
  | nonFiniteNumber (value : String)
  /-- The pattern makes a matcher that is larger than allowed, in bytes. -/
  | patternTooLarge (pattern : String) (limit : Nat)
  /-- A sort specification has a token that is no sort key; all its tokens. -/
  | invalidTokens (tokens : List String)
  | unknownField (field : String)
  | malformedNestedValue (parameter : String) (fault : NestedFault)
  | invalidPagingValue (code value : String)
  | duplicateOverride (field : String)
deriving DecidableEq, Repr

/-- The text of an error. -/
def FilterError.message : FilterError → String
  | .unknownOperation code => "operation " ++ code ++ " not found"
  | .unsupportedNestedOperation code => "nested operation " ++ code ++ " not supported"
  | .nestedNotSupported backend =>
    "nested operations not supported by the " ++ backend ++ " backend"
  | .nestingTooDeep depth max =>
    "nesting depth " ++ toString depth ++ " exceeds maximum allowed depth " ++ toString max
  | .noMatchingType value => "cannot infer a value type for '" ++ value ++ "'"
  | .castFailed value type => "cannot cast '" ++ value ++ "' to " ++ type.name
  | .missingValue field => "parameter '" ++ field ++ "' has no value"
  | .nonFiniteNumber value => "non-finite number '" ++ value ++ "'"
  | .patternTooLarge pattern limit =>
    "invalid pattern '" ++ pattern ++ "': Compiled regex exceeds size limit of " ++
      toString limit ++ " bytes."
  | .invalidTokens tokens =>
    "fields names: " ++ Text.quotedList tokens ++ " - don't match the sort pattern"
  | .unknownField field => "not found parameter with name: " ++ field
  | .malformedNestedValue parameter fault =>
    "invalid nested value for parameter '" ++ parameter ++ "': " ++ fault.message
  | .invalidPagingValue code value =>
    "invalid value '" ++ value ++ "' for paging operation " ++ code
  | .duplicateOverride field =>
    "duplicate manual operation registered for field '" ++ field ++ "'"

end FilterQuery
