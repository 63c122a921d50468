import FilterQuery.Proofs.Sql.RoundTrip

/-!
# Names in subqueries are found where they belong

SQL looks a qualifier up in the innermost query that opens an alias of this name, and then in the
queries around it (`resolve`). So a subquery with an alias of its own reaches the rows outside by
accident as soon as a name in it is one of theirs, and misses its own row if an inner query takes
its alias.

Neither happens. What a rendered predicate reads is read of the row that it was written against,
whatever alias the whole statement has (`references_expr`): a subquery's operand stands outside of
it, and all its other columns are qualified by the alias that it opens itself. And the aliases are
numbered in the order of the text, so that none of them is opened twice (`aliases_expr`).
-/

namespace FilterQuery.Sql

/-! ### Scopes -/

/-- Plain names are the same in letters of either case. -/
def SameName (s t : String) : Prop :=
  s.toList.map Char.toUpper = t.toList.map Char.toUpper

instance (s t : String) : Decidable (SameName s t) :=
  inferInstanceAs (Decidable (_ = _))

/-- A row in scope: of which table it is, and how many queries deep the table is bound. -/
structure Scope where
  level : Nat
  table : String
deriving DecidableEq

/-- The row that a qualifier stands for, under the tables that are bound, the innermost one
first. -/
def resolve (qualifier : String) : (bound : List Binding) → Option Scope
  | [] => none
  | b :: outer =>
    if SameName b.qualifier qualifier then some ⟨outer.length + 1, b.table⟩
    else resolve qualifier outer

/-- A column in a text. -/
structure Reference where
  field : String
  /-- How many queries deep it stands. -/
  level : Nat
  /-- The row that its qualifier stands for there. -/
  row : Option Scope
deriving DecidableEq

mutual

/-- The columns in an operand, from left to right, under the tables that are bound around it. -/
def Operand.references (bound : List Binding) : Operand → List Reference
  | .column qualifier field => [⟨field, bound.length, resolve qualifier bound⟩]
  | .number _ | .placeholder _ => []
  | .lower operand => operand.references bound
  | .scalar query => query.references bound

def Operand.referencesAll (bound : List Binding) : List Operand → List Reference
  | [] => []
  | o :: os => o.references bound ++ Operand.referencesAll bound os

/-- The columns in a condition. -/
def Expr.references (bound : List Binding) : Expr → List Reference
  | .compare left _ right => left.references bound ++ right.references bound
  | .like left _ pattern _ => left.references bound ++ pattern.references bound
  | .member left _ items => left.references bound ++ Operand.referencesAll bound items
  | .among left _ query => left.references bound ++ query.references bound
  | .isNull left _ => left.references bound
  | .all conditions | .any conditions => Expr.referencesAll bound conditions

def Expr.referencesAll (bound : List Binding) : List Expr → List Reference
  | [] => []
  | e :: es => e.references bound ++ Expr.referencesAll bound es

/-- The columns in a query, whose own alias is the innermost one for all of them. -/
def Query.references (bound : List Binding) : Query → List Reference
  | .select item table qualifier condition =>
    item.references (⟨table, qualifier⟩ :: bound) ++
      condition.references (⟨table, qualifier⟩ :: bound)

end

mutual

/-- The aliases that an operand opens, from left to right. -/
def Operand.aliases : Operand → List String
  | .column _ _ | .number _ | .placeholder _ => []
  | .lower operand => operand.aliases
  | .scalar query => query.aliases

def Operand.aliasesAll : List Operand → List String
  | [] => []
  | o :: os => o.aliases ++ Operand.aliasesAll os

/-- The aliases that a condition opens. -/
def Expr.aliases : Expr → List String
  | .compare left _ right => left.aliases ++ right.aliases
  | .like left _ pattern _ => left.aliases ++ pattern.aliases
  | .member left _ items => left.aliases ++ Operand.aliasesAll items
  | .among left _ query => left.aliases ++ query.aliases
  | .isNull left _ => left.aliases
  | .all conditions | .any conditions => Expr.aliasesAll conditions

def Expr.aliasesAll : List Expr → List String
  | [] => []
  | e :: es => e.aliases ++ Expr.aliasesAll es

/-- The aliases that a query opens: its own stands before those in its condition. -/
def Query.aliases : Query → List String
  | .select item _ qualifier condition => item.aliases ++ qualifier :: condition.aliases

end

@[simp] theorem resolve_self (b : Binding) (outer : List Binding) :
    resolve b.qualifier (b :: outer) = some ⟨outer.length + 1, b.table⟩ :=
  if_pos rfl

namespace Predicate

/-! ### What a predicate reads -/

mutual

/-- The fields that a predicate about a row reads, from left to right, with the rows that it reads
them of. A subquery reads its field of the row outside and of its own row, and whatever its filter
reads of its own row. -/
def columns (row : Scope) : Predicate → List (String × Scope)
  | .everything | .nothing => []
  | .compare field _ _ | .like field _ _ | .isNull field => [(field, row)]
  | .member field _ values => if values = [] then [] else [(field, row)]
  | .all ps | .any ps => columnsAll row ps
  | .subquery field operation table filter =>
    (field, row) ::
      if operation = .isNull then []
      else (field, ⟨row.level + 1, table⟩) :: filter.columns ⟨row.level + 1, table⟩

def columnsAll (row : Scope) : List Predicate → List (String × Scope)
  | [] => []
  | p :: ps => p.columns row ++ columnsAll row ps

end

/-- A reference that is found in the row that it is meant for. -/
def found (column : String × Scope) : Reference :=
  ⟨column.1, column.2.level, some column.2⟩

/-! ### References of the tree of a predicate -/

theorem references_columnOperand (b : Binding) (outer : List Binding) (field : String) :
    (columnOperand b field).references (b :: outer) =
      [found (field, ⟨outer.length + 1, b.table⟩)] := by
  rw [columnOperand, Operand.references, resolve_self]
  rfl

theorem referencesAll_placeholder (bound : List Binding) (ns : List Nat) :
    Operand.referencesAll bound (ns.map .placeholder) = [] := by
  induction ns with
  | nil => rfl
  | cons n ns ih => exact ih

theorem references_junctionExpr (bound : List Binding) (glue : Glue) (es : List Expr) :
    (junctionExpr glue es).references bound = Expr.referencesAll bound es := by
  match es with
  | [] => rfl
  | [e] => cases glue <;> exact (List.append_nil _).symm
  | e :: f :: es => cases glue <;> rfl

/-- The columns of a subquery belong to its own row, if those of its filter do. -/
theorem references_subquery {table : String} {next : Nat} {bound : List Binding} {e : Expr}
    {filter : Predicate} (h : e.references (.numbered table next :: bound) =
      (filter.columns ⟨bound.length + 1, table⟩).map found) (field : String) :
    (Query.select (columnOperand (.numbered table next) field) table
        (Binding.numbered table next).qualifier e).references bound =
      ((field, ⟨bound.length + 1, table⟩) ::
        filter.columns ⟨bound.length + 1, table⟩).map found := by
  have hcolumn := references_columnOperand (.numbered table next) bound field
  show (columnOperand (.numbered table next) field).references (.numbered table next :: bound) ++
    e.references (.numbered table next :: bound) = _
  rw [hcolumn, h]
  rfl

mutual

/-- **Every reference is found in the row that it is meant for**, whatever is bound outside. -/
theorem references_expr (b : Binding) (outer : List Binding) (next n : Nat) :
    (p : Predicate) → (p.expr b next n).references (b :: outer) =
      (p.columns ⟨outer.length + 1, b.table⟩).map found
  | .everything | .nothing => rfl
  | .compare field c value => by
    rw [expr, Expr.references, references_columnOperand]
    rfl
  | .like field pattern escaped => by
    show (columnOperand b field).references (b :: outer) ++ [] = _
    rw [references_columnOperand]
    rfl
  | .member field negated values => by
    rw [expr, columns]
    split
    · rfl
    · rw [Expr.references, references_columnOperand, referencesAll_placeholder]
      rfl
  | .isNull field => references_columnOperand b outer field
  | .all ps => by
    rw [expr, references_junctionExpr, references_exprAll]
    rfl
  | .any ps => by
    rw [expr, references_junctionExpr, references_exprAll]
    rfl
  | .subquery field operation table filter => by
    have hcolumn := references_columnOperand b outer field
    have hfilter := references_expr (.numbered table next) (b :: outer) (next + 1) n filter
    have hquery := references_subquery hfilter field
    cases operation with
    | isNull => exact hcolumn
    | member _ | compare _ =>
      show (columnOperand b field).references _ ++ (Query.select ..).references _ = _
      rw [hcolumn, hquery]
      rfl

theorem references_exprAll (b : Binding) (outer : List Binding) (next n : Nat) :
    (ps : List Predicate) → Expr.referencesAll (b :: outer) (exprAll b next n ps) =
      (columnsAll ⟨outer.length + 1, b.table⟩ ps).map found
  | [] => rfl
  | p :: ps => by
    rw [exprAll, Expr.referencesAll, references_expr, references_exprAll, columnsAll,
      List.map_append]

end

/-! ### Aliases of the tree of a predicate -/

/-- The numbered aliases, so many of them. -/
def numberedAliases (next count : Nat) : List String :=
  (List.range' next count).map fun n => "t" ++ toString n

theorem numberedAliases_append (next m n : Nat) :
    numberedAliases next m ++ numberedAliases (next + m) n = numberedAliases next (m + n) := by
  rw [numberedAliases, numberedAliases, numberedAliases, ← List.map_append, List.range'_append_1]

theorem aliasesAll_placeholder (ns : List Nat) :
    Operand.aliasesAll (ns.map .placeholder) = [] := by
  induction ns with
  | nil => rfl
  | cons n ns ih => exact ih

theorem aliases_junctionExpr (glue : Glue) (es : List Expr) :
    (junctionExpr glue es).aliases = Expr.aliasesAll es := by
  match es with
  | [] => rfl
  | [e] => cases glue <;> exact (List.append_nil _).symm
  | e :: f :: es => cases glue <;> rfl

mutual

/-- **Aliases are numbered in the order of the text.** -/
theorem aliases_expr (b : Binding) (next n : Nat) :
    (p : Predicate) → (p.expr b next n).aliases = numberedAliases next p.openings
  | .everything | .nothing | .compare .. | .like .. | .isNull _ => rfl
  | .member field negated values => by
    rw [expr]
    split
    · rfl
    · rw [Expr.aliases, aliasesAll_placeholder]
      rfl
  | .all ps => by
    rw [expr, aliases_junctionExpr, aliases_exprAll]
    rfl
  | .any ps => by
    rw [expr, aliases_junctionExpr, aliases_exprAll]
    rfl
  | .subquery field operation table filter => by
    have hfilter := aliases_expr (.numbered table next) (next + 1) n filter
    have hquery : numberedAliases next (1 + filter.openings) =
        (Binding.numbered table next).qualifier :: numberedAliases (next + 1) filter.openings := by
      rw [← numberedAliases_append]
      rfl
    cases operation with
    | isNull => rfl
    | member _ | compare _ =>
      show (Binding.numbered table next).qualifier :: (filter.expr ..).aliases = _
      rw [hfilter, ← hquery]
      rfl

theorem aliases_exprAll (b : Binding) (next n : Nat) :
    (ps : List Predicate) →
      Expr.aliasesAll (exprAll b next n ps) = numberedAliases next (openingsAll ps)
  | [] => rfl
  | p :: ps => by
    rw [exprAll, Expr.aliasesAll, aliases_expr, aliases_exprAll, numberedAliases_append]
    rfl

end

theorem toUpper_of_isDigit {c : Char} (hc : c.isDigit = true) : c.toUpper = c := by
  unfold Char.toUpper
  rw [dif_neg]
  rintro ⟨hlower, -⟩
  have hdigit : c.val ≤ '9'.val := by
    simp only [Char.isDigit, Bool.and_eq_true, decide_eq_true_eq] at hc
    exact hc.2
  exact absurd (UInt32.le_trans hlower hdigit) (by decide)

/-- Aliases with different numbers are different names. -/
theorem eq_of_sameName_numbered {m n : Nat}
    (h : SameName ("t" ++ toString m) ("t" ++ toString n)) : m = n := by
  have hupper : ∀ k, (Nat.toDigits 10 k).map Char.toUpper = Nat.toDigits 10 k := by
    intro k
    rw [List.map_congr_left fun c hc => toUpper_of_isDigit (Lexeme.isDigit_of_mem_toDigits hc),
      List.map_id']
  have hdigits : Nat.toDigits 10 m = Nat.toDigits 10 n := by
    simpa [SameName, hupper] using h
  calc
    m = Nat.ofDigitChars 10 (Nat.toDigits 10 m) 0 := Nat.ofDigitChars_ten_toDigits.symm
    _ = Nat.ofDigitChars 10 (Nat.toDigits 10 n) 0 := by rw [hdigits]
    _ = n := Nat.ofDigitChars_ten_toDigits

theorem pairwise_numberedAliases (next count : Nat) :
    (numberedAliases next count).Pairwise fun s t => ¬ SameName s t := by
  rw [numberedAliases, List.pairwise_map]
  have hnodup : (List.range' next count).Nodup := List.nodup_range'
  exact hnodup.imp fun hne h => hne (eq_of_sameName_numbered h)

/-- **Subqueries have scopes of their own.** The text of a predicate has one syntax tree. Its
queries open the aliases `t1`, `t2` and so on, in the order of the text and none of them twice. And
every column in it stands as deep as what it is meant for, and its qualifier stands for a row there
and for no other: the row outside for the operand of a subquery, the subquery's own row for what it
selects and for its filter. The alias of the whole statement may be any name. -/
theorem subqueries_keep_their_scopes (b : Binding) (hb : Lexeme.IsName b.qualifier)
    (p : Predicate) :
    ∃ e, (∀ f, Parses (p.render b).sql f ↔ f = e) ∧
      e.aliases = (List.range' 1 p.openings).map (fun n => "t" ++ toString n) ∧
      e.aliases.Pairwise (fun s t => ¬ SameName s t) ∧
      e.references [b] =
        (p.columns ⟨1, b.table⟩).map fun (field, row) => ⟨field, row.level, some row⟩ := by
  have hparses := parses_render b hb p
  have haliases := aliases_expr b 1 1 p
  refine ⟨p.expr b 1 1, fun f => ⟨fun hf => hf.unique hparses, ?_⟩, haliases, ?_,
    references_expr b [] 1 1 p⟩
  · rintro rfl
    exact hparses
  · rw [haliases]
    exact pairwise_numberedAliases 1 p.openings

/-- A statement under the alias that its first subquery opens again. -/
theorem subqueries_keep_their_scopes_under_same_alias :
    let b : Binding := ⟨"items", "t1"⟩
    let p : Predicate := .all
      [.subquery "dept" (.member false) "staff" (.any
          [.compare "pay" .greater (.integer 1),
            .subquery "dept" (.compare .equal) "sites" (.isNull "closed")]),
        .subquery "boss" .isNull "staff" .nothing,
        .subquery "boss" (.member true) "items" .everything]
    ∃ e, Parses (p.render b).sql e ∧ e.aliases = ["t1", "t2", "t3"] ∧
      e.references [b] =
        [⟨"dept", 1, some ⟨1, "items"⟩⟩, ⟨"dept", 2, some ⟨2, "staff"⟩⟩,
          ⟨"pay", 2, some ⟨2, "staff"⟩⟩, ⟨"dept", 2, some ⟨2, "staff"⟩⟩,
          ⟨"dept", 3, some ⟨3, "sites"⟩⟩, ⟨"closed", 3, some ⟨3, "sites"⟩⟩,
          ⟨"boss", 1, some ⟨1, "items"⟩⟩, ⟨"boss", 1, some ⟨1, "items"⟩⟩,
          ⟨"boss", 2, some ⟨2, "items"⟩⟩] := by
  intro b p
  have hb : Lexeme.IsName b.qualifier := Lexeme.isName_numbered "items" 1
  obtain ⟨e, hparses, haliases, -, hreferences⟩ := subqueries_keep_their_scopes b hb p
  refine ⟨e, (hparses e).mpr rfl, haliases.trans ?_, hreferences.trans ?_⟩
  · decide
  · decide

end Predicate

end FilterQuery.Sql
