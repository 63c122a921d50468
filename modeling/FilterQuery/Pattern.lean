import FilterQuery.Text.Folding

/-!
# Patterns and occurrences

A pattern is a text in which `%` stands for any run of characters and every other character for
itself. Its pieces, between the wildcards, must occur in order in a text that fits, the first at
the front and the last at the end. Taking each piece at its first occurrence is enough, because a
wildcard asks nothing of what it covers.
-/

namespace FilterQuery.Pattern

/-- The character that stands for any run of characters. -/
def wildcard : Char := '%'

/-- The text after the first occurrence of a piece. -/
def afterFirst? (piece : List Char) (text : List Char) : Option (List Char) :=
  if piece.isPrefixOf text then some (text.drop piece.length)
  else match text with
    | [] => none
    | _ :: rest => afterFirst? piece rest

/-- Whether a piece occurs in a text. -/
def occursIn (piece text : List Char) : Bool :=
  (afterFirst? piece text).isSome

/-- Whether the pieces occur in order in a text, each after a wildcard and the last at the end. -/
def scattered : (pieces : List (List Char)) → (text : List Char) → Bool
  | [], text => text.isEmpty
  | [last], text => last.isSuffixOf text
  | piece :: pieces, text =>
    match afterFirst? piece text with
    | some rest => scattered pieces rest
    | none => false

/-- Whether a text is made of the pieces in order with anything between them. -/
def fitsPieces (pieces : List (List Char)) (text : List Char) : Bool :=
  match pieces with
  | [] => false
  | first :: rest => first.isPrefixOf text && scattered rest (text.drop first.length)

/-- The pieces of a pattern between its wildcards. -/
def pieces (pattern : List Char) : List (List Char) :=
  pattern.splitOn wildcard

/-- Whether a text fits a pattern, with letters of either case taken as one. -/
def fits (pattern text : List Char) : Bool :=
  fitsPieces ((pieces pattern).map (·.map Text.fold)) (text.map Text.fold)

/-! ### As regular expressions -/

/-- The characters with a meaning in regular expressions. -/
def metacharacters : List Char :=
  ['\\', '.', '+', '*', '?', '(', ')', '|', '[', ']', '\x7b', '\x7d', '^', '$', '#', '&', '-', '~']

/-- The regular expression of a literal text. -/
def literalRegex (cs : List Char) : List Char :=
  cs.flatMap fun c => if metacharacters.contains c then ['\\', c] else [c]

/-- The anchored regular expression of a pattern. -/
def regex (pattern : List Char) : List Char :=
  '^' :: (".*".toList.intercalate ((pieces pattern).map literalRegex) ++ ['$'])

/-! ### Size of a matcher

What a matcher takes depends on the engine that makes it, so the size here is an estimate. Only
patterns of ten thousand characters and more come near the limit, and for those it may be wrong
about which are refused. What a pattern matches does not depend on it.
-/

/-- The bytes that are reckoned for a wildcard: the states that read any one character forwards, and
the loop over them. -/
def wildcardBytes : Nat := 456

/-- The bytes that are reckoned for any other character. That is what an ASCII letter takes if it
has just two cases. It is too much for a digit or another ASCII character without cases, and too
little for `k` and `s`, which have a third case outside ASCII, and for letters outside ASCII. -/
def letterBytes : Nat := 80

/-- An estimate of the size of the matcher of a pattern: it reckons every character that is no
wildcard as an ASCII letter of two cases. -/
def matcherBytes (pattern : List Char) : Nat :=
  let wildcards := pattern.count wildcard
  wildcards * wildcardBytes + (pattern.length - wildcards) * letterBytes

/-- The greatest size that a matcher may have. -/
def matcherLimit : Nat := 10485760

end FilterQuery.Pattern
