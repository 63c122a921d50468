import FilterQuery.Sql.Predicate

/-!
# SQL statements

A predicate and a page make a `SELECT` over one table.
-/

namespace FilterQuery.Sql

/-- What is selected. -/
structure Selection where
  table : String
  /-- The columns; all of them if none is named. -/
  columns : List String := []
deriving DecidableEq, Repr, Inhabited

namespace Selection

/-- The table under the alias of the whole statement. -/
def binding (s : Selection) : Binding :=
  .root s.table

/-- The list of columns. -/
def columnTokens (s : Selection) : List Token :=
  if s.columns = [] then [.star s.binding]
  else Predicate.separated .comma (s.columns.map fun field => [.column s.binding field])

/-- The `ORDER BY` clause; none if the page is unsorted. -/
def orderTokens (s : Selection) (page : Page) : List Token :=
  if page.isUnsorted then []
  else [.keyword .order, .keyword .by] ++
    Predicate.separated .comma (page.orders.map fun key =>
      [.column s.binding key.field,
        .keyword (match key.direction with | .ascending => .asc | .descending => .desc)])

/-- The clause that cuts out the page. -/
def limitTokens (page : Page) : List Token :=
  [.keyword .limit, .number page.limit, .keyword .offset, .number page.offset]

/-- The tokens of the whole statement. -/
def tokens (s : Selection) (p : Predicate) (page : Page) : List Token :=
  .keyword .select :: s.columnTokens ++ [.keyword .from, .table s.binding, .keyword .where] ++
    p.tokens s.binding 1 ++ s.orderTokens page ++ limitTokens page

/-- The whole statement. -/
def statement (s : Selection) (p : Predicate) (page : Page) : Fragment :=
  Token.fragment (s.tokens p page)

/-- The condition of the statement alone. -/
def condition (s : Selection) (p : Predicate) : Fragment :=
  p.render s.binding

end Selection

end FilterQuery.Sql
