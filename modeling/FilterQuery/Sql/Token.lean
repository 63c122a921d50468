import FilterQuery.Operation
import FilterQuery.Sql.Value

/-!
# SQL text

A statement is a list of tokens. Names are quoted, so that no name can end its own token; values
appear as placeholders, numbered in the order of the text; and a space stands between two tokens
unless a bracket or a comma makes it needless.
-/

namespace FilterQuery.Sql

/-- The words of the statements written here. -/
inductive Keyword where
  | select | from | where | and | or | not | in | like | escape | is | null | lower
  | order | by | asc | desc | limit | offset
deriving DecidableEq, Repr

/-- The text of a word. -/
def Keyword.text : Keyword → String
  | .select => "SELECT"
  | .from => "FROM"
  | .where => "WHERE"
  | .and => "AND"
  | .or => "OR"
  | .not => "NOT"
  | .in => "IN"
  | .like => "LIKE"
  | .escape => "ESCAPE"
  | .is => "IS"
  | .null => "NULL"
  | .lower => "LOWER"
  | .order => "ORDER"
  | .by => "BY"
  | .asc => "ASC"
  | .desc => "DESC"
  | .limit => "LIMIT"
  | .offset => "OFFSET"

/-- A table under an alias. -/
structure Binding where
  table : String
  /-- The alias, which qualifies the columns of the table. -/
  qualifier : String
deriving DecidableEq, Repr, Inhabited

/-- A name between quotes, with the quotes inside it doubled. -/
def quoteName (name : String) : String :=
  String.ofList ('"' :: (name.toList.flatMap fun c => if c = '"' then ['"', '"'] else [c]) ++ ['"'])

namespace Binding

/-- The reference to a column of the table. -/
def column (b : Binding) (field : String) : String :=
  b.qualifier ++ "." ++ quoteName field

/-- The table as an item of a `FROM` clause. -/
def fromItem (b : Binding) : String :=
  quoteName b.table ++ " " ++ b.qualifier

/-- The alias with a number. -/
def numbered (table : String) (n : Nat) : Binding :=
  ⟨table, "t" ++ toString n⟩

/-- The binding of a whole statement. -/
def root (table : String) : Binding :=
  numbered table 0

end Binding

/-- The character that makes the next one literal in a pattern with `ESCAPE`. -/
def likeEscape : Char := '\\'

/-- A text as a pattern that only this text fits, under the escape character. -/
def escapeLike (cs : List Char) : List Char :=
  cs.flatMap fun c =>
    if c = likeEscape ∨ c = '%' ∨ c = '_' then [likeEscape, c] else [c]

/-- The operator of a comparison. -/
def operatorText : Comparison → String
  | .equal => "="
  | .notEqual => "<>"
  | .less => "<"
  | .greater => ">"
  | .atMost => "<="
  | .atLeast => ">="

/-- A token of SQL. -/
inductive Token where
  | keyword (k : Keyword)
  | operator (c : Comparison)
  /-- A number that is part of the text. -/
  | number (n : Nat)
  | column (b : Binding) (field : String)
  | star (b : Binding)
  | table (b : Binding)
  /-- The place of a bound value. -/
  | bound (v : Value)
  /-- The escape character as an SQL string. -/
  | escapeMark
  | opening
  | closing
  | comma
deriving DecidableEq

namespace Token

/-- The value that a token binds. -/
def value? : Token → Option Value
  | .bound v => some v
  | _ => none

/-- The text of a token; a placeholder gets the number `n`. -/
def text (n : Nat) : Token → String
  | .keyword k => k.text
  | .operator c => operatorText c
  | .number m => toString m
  | .column b field => b.column field
  | .star b => b.qualifier ++ ".*"
  | .table b => b.fromItem
  | .bound _ => Fragment.placeholder n
  | .escapeMark => "'" ++ String.singleton likeEscape ++ "'"
  | .opening => "("
  | .closing => ")"
  | .comma => ","

/-- Whether no space stands between two tokens. -/
def abuts (left right : Token) : Bool :=
  left == .opening || left == .keyword .lower || right == .closing || right == .comma

/-- The texts of tokens with the spaces between them; the next placeholder gets the number `n`. -/
def pieces (n : Nat) : List Token → List String
  | [] => []
  | [t] => [t.text n]
  | t :: u :: rest =>
    t.text n :: (if t.abuts u then "" else " ") ::
      pieces (if t.value?.isSome then n + 1 else n) (u :: rest)

/-- The text of tokens, with their placeholders numbered from one. -/
def layout (tokens : List Token) : String :=
  String.join (pieces 1 tokens)

/-- The text of tokens together with the values that they bind. -/
def fragment (tokens : List Token) : Fragment :=
  ⟨layout tokens, tokens.filterMap value?⟩

end Token

end FilterQuery.Sql
