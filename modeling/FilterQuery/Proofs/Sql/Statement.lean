import FilterQuery.Sql.Statement
import FilterQuery.Proofs.Sql.Rendering

/-!
# Reading SQL back: statements

    statement = SELECT items FROM "name" name WHERE disjunction
                [ORDER BY key, …, key] LIMIT number OFFSET number
    items     = name . * | column, …, column
    key       = column ASC | column DESC
    column    = name . "name"

The clauses of a statement begin with words that continue no condition, so they are read one after
the other, and the condition in the middle is read by the grammar of conditions. A statement is read
back whole: the columns, the table, the condition, the sort keys and the page all stand in the text
as they came (`statement_reads_back`).
-/

namespace FilterQuery.Sql

/-! ### The reader -/

/-- What a statement selects. -/
inductive Items where
  | all (qualifier : String)
  | columns (columns : List Operand)

/-- A statement as it is read. -/
structure Statement where
  items : Items
  table : String
  qualifier : String
  condition : Expr
  order : List (Operand × Direction)
  limit : Nat
  offset : Nat

def readColumn : Reader Operand
  | .name qualifier :: .dot :: .quoted field :: ls => some (.column qualifier field, ls)
  | _ => none

def readItems : Reader Items
  | .name qualifier :: .dot :: .star :: ls => some (.all qualifier, ls)
  | ls => (readParts .comma readColumn ls).map fun (columns, ls) => (.columns columns, ls)

def readSortKey : Reader (Operand × Direction) := fun ls =>
  match readColumn ls with
  | some (o, .keyword .asc :: ls) => some ((o, .ascending), ls)
  | some (o, .keyword .desc :: ls) => some ((o, .descending), ls)
  | _ => none

/-- Reads the `ORDER BY` clause; no clause is no sort key. -/
def readOrder : Reader (List (Operand × Direction))
  | .keyword .order :: .keyword .by :: ls => readParts .comma readSortKey ls
  | ls => some ([], ls)

/-- Reads the last clauses, up to the end. -/
def readTail? (items : Items) (table qualifier : String) (condition : Expr)
    (ls : List Lexeme) : Option Statement :=
  match readOrder ls with
  | some (order, [.keyword .limit, .number limit, .keyword .offset, .number offset]) =>
    some ⟨items, table, qualifier, condition, order, limit, offset⟩
  | _ => none

/-- Reads a whole statement. -/
def readStatement? : List Lexeme → Option Statement
  | .keyword .select :: ls =>
    match readItems ls with
    | some (items, .keyword .from :: .quoted table :: .name qualifier :: .keyword .where :: ls) =>
      (read (ls.length + 1) .disjunction ls).bind fun (condition, ls) =>
        readTail? items table qualifier condition ls
    | _ => none
  | _ => none

namespace Statement

/-- The statement that a text is. -/
def ofText? (sql : String) : Option Statement :=
  (Lexeme.lex? sql).bind readStatement?

/-- The sort keys of a statement; each must be a column of its table. -/
def sortKeys? (s : Statement) : Option (List SortKey) :=
  s.order.mapM fun (o, direction) =>
    match o with
    | .column qualifier field => if qualifier = s.qualifier then some ⟨field, direction⟩ else none
    | _ => none

end Statement

/-! ### Lexemes of the clauses -/

open Token (bindings bindings_append bindings_cons lexemesFrom lexemesFrom_append lexemesFrom_cons
  lexemesEach)

section

variable {α β : Type} {separator : Token} {l : Lexeme} (f : α → List Token)
  (part : α → List Lexeme × β)

/-- Parts that bind no values are written one after the other. -/
theorem lexemesFrom_parts (hl : ∀ n, separator.lexemes n = [l]) (hs : separator.value? = none)
    (hpart : ∀ x n, lexemesFrom n (f x) = (part x).1) (hbindings : ∀ x, bindings (f x) = [])
    (n : Nat) (xs : List α) :
    lexemesFrom n (Predicate.separated separator (xs.map f)) = written l (xs.map part) := by
  have heach : ∀ n, lexemesEach n (xs.map f) = (xs.map part).map (·.1) := by
    induction xs with
    | nil => exact fun _ => rfl
    | cons x xs ih =>
      intro n
      simp [lexemesEach, hpart, hbindings, ih]
  rw [Predicate.lexemesFrom_separated hl hs, heach]
  rfl

/-- And they are read one after the other, if each is read whatever follows. -/
theorem readParts_parts {r : Reader β} (hread : ∀ x ls, r ((part x).1 ++ ls) = some ((part x).2, ls))
    {xs : List α} (hne : xs ≠ []) {rest : List Lexeme} (hrest : rest.head? ≠ some l) :
    readParts l r (written l (xs.map part) ++ rest) = some (xs.map fun x => (part x).2, rest) := by
  rw [readParts_written (by simpa using hne) hrest]
  · simp [Function.comp_def]
  · intro x hx
    obtain ⟨x, -, rfl⟩ := List.mem_map.mp hx
    exact hread x rest
  · intro x hx ls
    obtain ⟨x, -, rfl⟩ := List.mem_map.mp hx
    exact hread x _

end

namespace Selection

open Predicate (columnOperand Readable readable_plain readable_separated readable_tokens)

variable (s : Selection)

/-- The syntax tree of a statement. -/
def tree (p : Predicate) (page : Page) : Statement where
  items :=
    if s.columns = [] then .all s.binding.qualifier
    else .columns (s.columns.map (columnOperand s.binding))
  table := s.binding.table
  qualifier := s.binding.qualifier
  condition := p.expr s.binding 1 1
  order := page.orders.map fun key => (columnOperand s.binding key.field, key.direction)
  limit := page.limit
  offset := page.offset

def columnPart (field : String) : List Lexeme × Operand :=
  ([.name s.binding.qualifier, .dot, .quoted field], columnOperand s.binding field)

def directionWord : Direction → Keyword
  | .ascending => .asc
  | .descending => .desc

def sortTokens (key : SortKey) : List Token :=
  [.column s.binding key.field, .keyword (directionWord key.direction)]

def sortPart (key : SortKey) : List Lexeme × (Operand × Direction) :=
  ([.name s.binding.qualifier, .dot, .quoted key.field, .keyword (directionWord key.direction)],
    (columnOperand s.binding key.field, key.direction))

theorem readSortKey_sortPart (key : SortKey) (rest : List Lexeme) :
    readSortKey ((s.sortPart key).1 ++ rest) = some ((s.sortPart key).2, rest) := by
  obtain ⟨field, direction⟩ := key
  cases direction <;> rfl

theorem readItems_columnTokens (n : Nat) {rest : List Lexeme}
    (hrest : rest.head? = some (.keyword .from)) (p : Predicate) (page : Page) :
    readItems (lexemesFrom n s.columnTokens ++ rest) = some ((s.tree p page).items, rest) := by
  unfold columnTokens tree
  cases s.columns with
  | nil => rfl
  | cons field fields =>
    have hwritten : lexemesFrom n (Predicate.separated .comma
        ((field :: fields).map fun field => [.column s.binding field])) =
          written .comma ((field :: fields).map s.columnPart) :=
      lexemesFrom_parts _ s.columnPart (fun _ => rfl) rfl (fun _ _ => rfl) (fun _ => rfl) n _
    have hparts : readParts .comma readColumn
        (written .comma ((field :: fields).map s.columnPart) ++ rest) =
          some ((field :: fields).map (columnOperand s.binding), rest) :=
      readParts_parts s.columnPart (fun _ _ => rfl) (List.cons_ne_nil _ _) (by simp [hrest])
    -- the first column is no star
    have hcolumn : ∀ ls, readItems (written .comma ((field :: fields).map s.columnPart) ++ ls) =
        (readParts .comma readColumn
          (written .comma ((field :: fields).map s.columnPart) ++ ls)).map
            fun (columns, ls) => (.columns columns, ls) := by
      intro ls
      cases fields <;> rfl
    rw [if_neg (List.cons_ne_nil _ _), if_neg (List.cons_ne_nil _ _), hwritten, hcolumn, hparts]
    rfl

theorem readOrder_orderTokens (n : Nat) {rest : List Lexeme}
    (hrest : rest.head? = some (.keyword .limit)) (p : Predicate) (page : Page) :
    readOrder (lexemesFrom n (s.orderTokens page) ++ rest) =
      some ((s.tree p page).order, rest) := by
  unfold orderTokens tree Page.isUnsorted
  cases page.orders with
  | nil =>
    cases rest with
    | nil => cases hrest
    | cons l ls =>
      obtain rfl := Option.some.inj hrest
      rfl
  | cons key keys =>
    show readParts .comma readSortKey (lexemesFrom n (Predicate.separated .comma
      ((key :: keys).map s.sortTokens)) ++ rest) = _
    rw [lexemesFrom_parts s.sortTokens s.sortPart (fun _ => rfl) rfl (fun _ _ => rfl)
      (fun _ => rfl)]
    exact readParts_parts s.sortPart s.readSortKey_sortPart (List.cons_ne_nil _ _)
      (by simp [hrest])

/-! ### The whole statement -/

theorem readable_statement (p : Predicate) (page : Page) : Readable (s.tokens p page) := by
  have hname : Lexeme.IsName s.binding.qualifier := Lexeme.isName_numbered s.table 0
  have hcomma : Readable [.comma] := readable_plain (by simp [Token.Aliased])
  have hcolumns : Readable s.columnTokens := by
    unfold columnTokens
    split
    · exact readable_plain (by simp [Token.Aliased, hname])
    · apply readable_separated hcomma
      intro part hpart
      obtain ⟨field, -, rfl⟩ := List.mem_map.mp hpart
      exact readable_plain (by simp [Token.Aliased, hname])
  have horder : Readable (s.orderTokens page) := by
    unfold orderTokens
    split
    · exact readable_plain (by simp)
    · have hwords : Readable [.keyword .order, .keyword .by] :=
        readable_plain (by simp [Token.Aliased])
      apply hwords.append
      apply readable_separated hcomma
      intro part hpart
      obtain ⟨⟨field, direction⟩, -, rfl⟩ := List.mem_map.mp hpart
      cases direction <;> exact readable_plain (by simp [Token.Aliased, hname])
  have hselect : Readable [.keyword .select] := readable_plain (by simp [Token.Aliased])
  have hfrom : Readable [.keyword .from, .table s.binding, .keyword .where] :=
    readable_plain (by simp [Token.Aliased, hname])
  have hlimit : Readable (limitTokens page) :=
    readable_plain (by simp [limitTokens, Token.Aliased])
  exact ((((hselect.append hcolumns).append hfrom).append (readable_tokens hname 1 p)).append
    horder).append hlimit

theorem bindings_columnTokens : bindings s.columnTokens = [] := by
  unfold columnTokens
  split
  · rfl
  · rw [Predicate.bindings_separated rfl]
    simp [List.flatMap_map, bindings, Token.value?]

def limitLexemes (page : Page) : List Lexeme :=
  [.keyword .limit, .number page.limit, .keyword .offset, .number page.offset]

/-- Behind the condition stands `ORDER` or `LIMIT`. -/
theorem stops_orderTokens (n : Nat) (page : Page) :
    Symbol.disjunction.Stops (lexemesFrom n (s.orderTokens page) ++ limitLexemes page) := by
  have hhead : (lexemesFrom n (s.orderTokens page) ++ limitLexemes page).head? =
      some (.keyword (if page.isUnsorted then .limit else .order)) := by
    unfold orderTokens
    split <;> rfl
  intro k hk
  rw [hhead]
  split <;> rintro ⟨⟩ <;> simp [Symbol.extensions] at hk

/-- What stands before the condition. -/
def headTokens : List Token :=
  .keyword .select :: s.columnTokens ++ [.keyword .from, .table s.binding, .keyword .where]

theorem bindings_headTokens : bindings s.headTokens = [] := by
  unfold headTokens
  rw [bindings_append, bindings_cons rfl, bindings_columnTokens]
  rfl

theorem lexemesFrom_headTokens (n : Nat) :
    lexemesFrom n s.headTokens =
      .keyword .select :: (lexemesFrom n s.columnTokens ++
        [.keyword .from, .quoted s.binding.table, .name s.binding.qualifier, .keyword .where]) := by
  unfold headTokens
  rw [List.cons_append, lexemesFrom_cons rfl, lexemesFrom_append]
  rfl

/-- The lexemes of a statement, clause by clause. -/
theorem lexemes_statement (p : Predicate) (page : Page) :
    ∃ n, lexemesFrom 1 (s.tokens p page) =
      .keyword .select :: (lexemesFrom 1 s.columnTokens ++
        .keyword .from :: .quoted s.binding.table :: .name s.binding.qualifier ::
          .keyword .where :: (lexemesFrom 1 (p.tokens s.binding 1) ++
            (lexemesFrom n (s.orderTokens page) ++ limitLexemes page))) := by
  refine ⟨1 + (bindings (p.tokens s.binding 1)).length, ?_⟩
  show lexemesFrom 1 (s.headTokens ++ p.tokens s.binding 1 ++ s.orderTokens page ++
    limitTokens page) = _
  rw [lexemesFrom_append, lexemesFrom_append, lexemesFrom_append, bindings_append,
    bindings_headTokens, lexemesFrom_headTokens]
  simp only [List.append_assoc, List.cons_append]
  rfl

/-- **Statements are read back**, with every clause. -/
theorem statement_reads_back (p : Predicate) (page : Page) :
    Statement.ofText? (s.statement p page).sql = some (s.tree p page) := by
  have hreadable := s.readable_statement p page
  have hlex : Lexeme.lex? (s.statement p page).sql = some (lexemesFrom 1 (s.tokens p page)) :=
    Token.lex?_layout hreadable.aliased hreadable.applied
  obtain ⟨n, hlexemes⟩ := s.lexemes_statement p page
  have hitems : ∀ ls, readItems (lexemesFrom 1 s.columnTokens ++ .keyword .from :: ls) =
      some ((s.tree p page).items, .keyword .from :: ls) :=
    fun ls => s.readItems_columnTokens 1 rfl p page
  have hcondition := readAs_of_derives (Predicate.derives_tokens s.binding 1 1 p)
  have horder : readOrder (lexemesFrom n (s.orderTokens page) ++ limitLexemes page) =
      some ((s.tree p page).order, limitLexemes page) :=
    s.readOrder_orderTokens n rfl p page
  unfold Statement.ofText?
  rw [hlex, hlexemes]
  simp only [Option.bind_some, readStatement?, hitems]
  rw [hcondition _ (by simp) _ (s.stops_orderTokens n page)]
  simp only [Option.bind_some, readTail?, horder]
  rfl

/-- **The sort keys stand in the text as they came.** -/
theorem sortKeys?_statement (p : Predicate) (page : Page) :
    (Statement.ofText? (s.statement p page).sql).bind Statement.sortKeys? = some page.orders := by
  rw [statement_reads_back]
  show (page.orders.map _).mapM _ = some page.orders
  induction page.orders with
  | nil => rfl
  | cons key keys ih =>
    rw [List.map_cons, List.mapM_cons, ih]
    simp [columnOperand, tree]

end Selection

end FilterQuery.Sql
