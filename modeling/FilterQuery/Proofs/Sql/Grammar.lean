import FilterQuery.Proofs.Sql.Lexeme

/-!
# Reading SQL back: the grammar of conditions

    operand     = name . "name" | number | ?number | LOWER ( operand ) | ( query )
    query       = SELECT operand FROM "name" name WHERE disjunction
    factor      = ( disjunction ) | operand operator operand
                | operand [NOT] LIKE operand [ESCAPE text]
                | operand [NOT] IN ( operand, …, operand ) | operand [NOT] IN ( query )
                | operand IS [NOT] NULL
    conjunction = factor AND … AND factor
    disjunction = conjunction OR … OR conjunction

`Derives` is this grammar as a relation, one constructor for each alternative. `read` reads by it.
Every derivation is found by the reader (`readAs_of_derives`), and the reader finds one tree at
most, so a text has at most one derivation (`derives_unique`).

A bracket may open a condition or a query; the word behind it tells which.
-/

namespace FilterQuery.Sql

/-! ### Trees -/

mutual

/-- What a condition is about. -/
inductive Operand where
  | column (qualifier field : String)
  | number (n : Nat)
  | placeholder (n : Nat)
  | lower (operand : Operand)
  | scalar (query : Query)

/-- A condition. -/
inductive Expr where
  | compare (left : Operand) (c : Comparison) (right : Operand)
  | like (left : Operand) (negated : Bool) (pattern : Operand) (escape : Option String)
  | member (left : Operand) (negated : Bool) (items : List Operand)
  | among (left : Operand) (negated : Bool) (query : Query)
  | isNull (left : Operand) (negated : Bool)
  | all (conditions : List Expr)
  | any (conditions : List Expr)

/-- A query: what it selects, from which table under which alias, and for which rows. -/
inductive Query where
  | select (item : Operand) (table qualifier : String) (condition : Expr)

end

/-- Conditions under a glue; a single one stands for itself. -/
def Expr.glued : Glue → List Expr → Expr
  | _, [e] => e
  | .and, es => .all es
  | .or, es => .any es

/-! ### The grammar -/

/-- The symbols of the grammar. -/
inductive Symbol where
  | operand | query | factor | conjunction | disjunction
deriving DecidableEq

/-- The trees of a symbol. -/
abbrev Symbol.Tree : Symbol → Type
  | .operand => Operand
  | .query => Query
  | .factor | .conjunction | .disjunction => Expr

/-- Lexemes between brackets. -/
def brackets (ls : List Lexeme) : List Lexeme :=
  .opening :: ls ++ [.closing]

def notWord (negated : Bool) : List Lexeme :=
  if negated then [.keyword .not] else []

def escapeClause : Option String → List Lexeme
  | some s => [.keyword .escape, .text s]
  | none => []

/-- What is written of several parts with a lexeme between them. -/
def written {α : Type} (separator : Lexeme) (parts : List (List Lexeme × α)) : List Lexeme :=
  [separator].intercalate (parts.map (·.1))

/-- The lexemes are written by the grammar and stand for the tree. -/
inductive Derives : (s : Symbol) → List Lexeme → s.Tree → Prop
  | column (qualifier field : String) :
    Derives .operand [.name qualifier, .dot, .quoted field] (.column qualifier field)
  | number (n : Nat) : Derives .operand [.number n] (.number n)
  | placeholder (n : Nat) : Derives .operand [.placeholder n] (.placeholder n)
  | lower {ls : List Lexeme} {o : Operand} : Derives .operand ls o →
    Derives .operand (.keyword .lower :: brackets ls) (.lower o)
  | scalar {ls : List Lexeme} {q : Query} : Derives .query ls q →
    Derives .operand (brackets ls) (.scalar q)
  | query {item condition : List Lexeme} {o : Operand} {e : Expr} (table qualifier : String) :
    Derives .operand item o → Derives .disjunction condition e →
    Derives .query
      (.keyword .select :: item ++ .keyword .from :: .quoted table :: .name qualifier ::
        .keyword .where :: condition)
      (.select o table qualifier e)
  | bracketed {ls : List Lexeme} {e : Expr} : Derives .disjunction ls e →
    Derives .factor (brackets ls) e
  | compare {left right : List Lexeme} {l r : Operand} (c : Comparison) :
    Derives .operand left l → Derives .operand right r →
    Derives .factor (left ++ .operator c :: right) (.compare l c r)
  | like {left pattern : List Lexeme} {l p : Operand} (negated : Bool) (escape : Option String) :
    Derives .operand left l → Derives .operand pattern p →
    Derives .factor (left ++ notWord negated ++ .keyword .like :: pattern ++ escapeClause escape)
      (.like l negated p escape)
  | member {left : List Lexeme} {l : Operand} (negated : Bool)
      {items : List (List Lexeme × Operand)} : Derives .operand left l → items ≠ [] →
    (∀ x ∈ items, Derives .operand x.1 x.2) →
    Derives .factor
      (left ++ notWord negated ++ .keyword .in :: brackets (written .comma items))
      (.member l negated (items.map (·.2)))
  | among {left ls : List Lexeme} {l : Operand} {q : Query} (negated : Bool) :
    Derives .operand left l → Derives .query ls q →
    Derives .factor (left ++ notWord negated ++ .keyword .in :: brackets ls) (.among l negated q)
  | isNull {left : List Lexeme} {l : Operand} (negated : Bool) : Derives .operand left l →
    Derives .factor (left ++ .keyword .is :: notWord negated ++ [.keyword .null])
      (.isNull l negated)
  | conjunction {factors : List (List Lexeme × Expr)} : factors ≠ [] →
    (∀ x ∈ factors, Derives .factor x.1 x.2) →
    Derives .conjunction (written (.keyword .and) factors) (.glued .and (factors.map (·.2)))
  | disjunction {conjunctions : List (List Lexeme × Expr)} : conjunctions ≠ [] →
    (∀ x ∈ conjunctions, Derives .conjunction x.1 x.2) →
    Derives .disjunction (written (.keyword .or) conjunctions)
      (.glued .or (conjunctions.map (·.2)))

/-! ### The reader -/

/-- A reader takes a tree off the front. -/
abbrev Reader (α : Type) := List Lexeme → Option (α × List Lexeme)

/-- Reads what stands between brackets. -/
def readBracketed {α : Type} (r : Reader α) : Reader α
  | .opening :: ls =>
    match r ls with
    | some (a, .closing :: ls) => some (a, ls)
    | _ => none
  | _ => none

/-- Reads parts with a separator between them, with so many steps. -/
def readSeparated {α : Type} (separator : Lexeme) (r : Reader α) : (steps : Nat) → Reader (List α)
  | 0, _ => none
  | steps + 1, ls =>
    match r ls with
    | none => none
    | some (a, ls) =>
      if ls.head? = some separator then
        (readSeparated separator r steps ls.tail).map fun (as, ls) => (a :: as, ls)
      else some ([a], ls)

/-- Reads parts with a separator between them. Every separator is a step, so the length of the text
bounds the steps. -/
def readParts {α : Type} (separator : Lexeme) (r : Reader α) : Reader (List α) :=
  fun ls => readSeparated separator r (ls.length + 1) ls

/-- Whether a bracket opens a query here. -/
def opensQuery : List Lexeme → Bool
  | .opening :: .keyword .select :: _ => true
  | _ => false

section

-- reads what stands between brackets
variable (inner : (s : Symbol) → Reader s.Tree)

def readOperand : Reader Operand
  | .name qualifier :: .dot :: .quoted field :: ls => some (.column qualifier field, ls)
  | .number n :: ls => some (.number n, ls)
  | .placeholder n :: ls => some (.placeholder n, ls)
  | .keyword .lower :: ls =>
    (readBracketed (inner .operand) ls).map fun (o, ls) => (.lower o, ls)
  | ls => (readBracketed (inner .query) ls).map fun (q, ls) => (.scalar q, ls)

def readQuery : Reader Query
  | .keyword .select :: ls =>
    match inner .operand ls with
    | some (o, .keyword .from :: .quoted table :: .name qualifier :: .keyword .where :: ls) =>
      (inner .disjunction ls).map fun (e, ls) => (.select o table qualifier e, ls)
    | _ => none
  | _ => none

def readEscape : List Lexeme → Option String × List Lexeme
  | .keyword .escape :: .text s :: ls => (some s, ls)
  | ls => (none, ls)

/-- Reads a test that may be negated, after its operand and the word `NOT`. -/
def readNegatable (l : Operand) (negated : Bool) : Reader Expr
  | .keyword .like :: ls =>
    (readOperand inner ls).map fun (p, ls) =>
      (.like l negated p (readEscape ls).1, (readEscape ls).2)
  | .keyword .in :: ls =>
    if opensQuery ls then
      (readBracketed (inner .query) ls).map fun (q, ls) => (.among l negated q, ls)
    else
      (readBracketed (readParts .comma (inner .operand)) ls).map fun (os, ls) =>
        (.member l negated os, ls)
  | _ => none

def readTest (l : Operand) : Reader Expr
  | .operator c :: ls => (readOperand inner ls).map fun (r, ls) => (.compare l c r, ls)
  | .keyword .is :: .keyword .null :: ls => some (.isNull l false, ls)
  | .keyword .is :: .keyword .not :: .keyword .null :: ls => some (.isNull l true, ls)
  | .keyword .not :: ls => readNegatable inner l true ls
  | ls => readNegatable inner l false ls

def readFactor : Reader Expr := fun ls =>
  if ls.head? = some .opening ∧ ¬ opensQuery ls then readBracketed (inner .disjunction) ls
  else (readOperand inner ls).bind fun (l, ls) => readTest inner l ls

/-- Reads factors under `AND`. -/
def readConjunction : Reader Expr := fun ls =>
  (readParts (.keyword .and) (readFactor inner) ls).map fun (es, ls) => (.glued .and es, ls)

/-- Reads conjunctions under `OR`. -/
def readDisjunction : Reader Expr := fun ls =>
  (readParts (.keyword .or) (readConjunction inner) ls).map fun (es, ls) => (.glued .or es, ls)

end

/-- Reads a symbol, with so many brackets inside each other. -/
def read : (levels : Nat) → (s : Symbol) → Reader s.Tree
  | 0, _ => fun _ => none
  | levels + 1, .operand => readOperand (read levels)
  | levels + 1, .query => readQuery (read levels)
  | levels + 1, .factor => readFactor (read levels)
  | levels + 1, .conjunction => readConjunction (read levels)
  | levels + 1, .disjunction => readDisjunction (read levels)

/-! ### What may stand behind a tree -/

/-- The words that would continue a symbol. -/
def Symbol.extensions : Symbol → List Keyword
  | .operand => []
  | .factor => [.escape]
  | .conjunction => [.escape, .and]
  | .query | .disjunction => [.escape, .and, .or]

/-- What follows does not continue the symbol. -/
def Symbol.Stops (s : Symbol) (rest : List Lexeme) : Prop :=
  ∀ k ∈ s.extensions, rest.head? ≠ some (.keyword k)

theorem Symbol.stops_closing (s : Symbol) (rest : List Lexeme) : s.Stops (.closing :: rest) := by
  intro k _
  simp

theorem Symbol.stops_operand (rest : List Lexeme) : Symbol.operand.Stops rest := by
  intro k hk
  simp [Symbol.extensions] at hk

theorem Symbol.Stops.mono {s u : Symbol} {rest : List Lexeme} (h : s.Stops rest)
    (hsub : ∀ k ∈ u.extensions, k ∈ s.extensions) : u.Stops rest :=
  fun k hk => h k (hsub k hk)

/-! ### Reading parts -/

theorem brackets_append (ls rest : List Lexeme) :
    brackets ls ++ rest = .opening :: (ls ++ .closing :: rest) := by
  simp [brackets]

theorem written_cons_cons {α : Type} (separator : Lexeme) (x y : List Lexeme × α)
    (parts : List (List Lexeme × α)) :
    written separator (x :: y :: parts) = x.1 ++ separator :: written separator (y :: parts) := by
  simp [written, List.intercalate_cons_cons]

theorem readBracketed_brackets {α : Type} {r : Reader α} {ls rest : List Lexeme} {a : α}
    (h : r (ls ++ .closing :: rest) = some (a, .closing :: rest)) :
    readBracketed r (brackets ls ++ rest) = some (a, rest) := by
  rw [brackets_append, readBracketed, h]

/-- If every part is read up to a separator and up to the end, all parts are read. -/
theorem readSeparated_written {α : Type} {separator : Lexeme} {r : Reader α}
    {parts : List (List Lexeme × α)} (hne : parts ≠ []) {rest : List Lexeme}
    (hrest : rest.head? ≠ some separator)
    (hend : ∀ x ∈ parts, r (x.1 ++ rest) = some (x.2, rest))
    (hseparator : ∀ x ∈ parts, ∀ ls, r (x.1 ++ separator :: ls) = some (x.2, separator :: ls))
    (steps : Nat) (hsteps : parts.length ≤ steps) :
    readSeparated separator r steps (written separator parts ++ rest) =
      some (parts.map (·.2), rest) := by
  induction parts generalizing steps with
  | nil => exact absurd rfl hne
  | cons x parts ih =>
    obtain ⟨steps, rfl⟩ : ∃ n, steps = n + 1 := ⟨steps - 1, by simp at hsteps; omega⟩
    cases parts with
    | nil =>
      -- the last part: what follows is no separator
      have hx := hend x (by simp)
      simp [written, readSeparated, hx, hrest]
    | cons y parts =>
      -- an earlier part: a separator follows, and then the others
      have hx := hseparator x (by simp) (written separator (y :: parts) ++ rest)
      have hparts := ih (by simp) (fun z hz => hend z (by simp [hz]))
        (fun z hz => hseparator z (by simp [hz])) steps (by simp at hsteps ⊢; omega)
      rw [written_cons_cons, List.append_assoc, List.cons_append, readSeparated, hx]
      simp [hparts]

theorem length_le_written {α : Type} (separator : Lexeme) (parts : List (List Lexeme × α)) :
    parts.length ≤ (written separator parts).length + 1 := by
  induction parts with
  | nil => simp
  | cons x parts ih =>
    cases parts with
    | nil => simp
    | cons y parts =>
      rw [written_cons_cons]
      simp at ih ⊢
      omega

theorem readParts_written {α : Type} {separator : Lexeme} {r : Reader α}
    {parts : List (List Lexeme × α)} (hne : parts ≠ []) {rest : List Lexeme}
    (hrest : rest.head? ≠ some separator)
    (hend : ∀ x ∈ parts, r (x.1 ++ rest) = some (x.2, rest))
    (hseparator : ∀ x ∈ parts, ∀ ls, r (x.1 ++ separator :: ls) = some (x.2, separator :: ls)) :
    readParts separator r (written separator parts ++ rest) = some (parts.map (·.2), rest) := by
  apply readSeparated_written hne hrest hend hseparator
  have := length_le_written separator parts
  simp
  omega

/-- A part is no longer than all parts together. -/
theorem length_le_of_mem {α : Type} (separator : Lexeme) {parts : List (List Lexeme × α)}
    {x : List Lexeme × α} (hx : x ∈ parts) : x.1.length ≤ (written separator parts).length := by
  induction parts with
  | nil => simp at hx
  | cons y parts ih =>
    cases parts with
    | nil =>
      simp at hx
      simp [written, hx]
    | cons z parts =>
      rw [written_cons_cons]
      rcases List.mem_cons.mp hx with rfl | hx
      · simp
      · have := ih hx
        simp
        omega

/-! ### How trees begin -/

/-- The lexemes begin with one that is not `SELECT`. -/
def NoQuery (ls : List Lexeme) : Prop :=
  ∃ l rest, ls = l :: rest ∧ l ≠ .keyword .select

theorem NoQuery.append {ls : List Lexeme} (h : NoQuery ls) (more : List Lexeme) :
    NoQuery (ls ++ more) := by
  obtain ⟨l, rest, rfl, hl⟩ := h
  exact ⟨l, rest ++ more, rfl, hl⟩

theorem noQuery_written {α : Type} {separator : Lexeme} {parts : List (List Lexeme × α)}
    (hne : parts ≠ []) (h : ∀ x ∈ parts, NoQuery x.1) : NoQuery (written separator parts) := by
  obtain ⟨x, parts, rfl⟩ := List.exists_cons_of_ne_nil hne
  have hx := h x (by simp)
  cases parts with
  | nil => simpa [written] using hx
  | cons y parts =>
    rw [written_cons_cons]
    exact hx.append _

/-- Only a query begins with `SELECT`. -/
theorem noQuery_of_derives {s : Symbol} {ls : List Lexeme} {t : s.Tree} (h : Derives s ls t)
    (hs : s ≠ .query) : NoQuery ls := by
  induction h with
  | column | number | placeholder => exact ⟨_, _, rfl, by simp⟩
  | lower | scalar | bracketed => exact ⟨_, _, rfl, by simp⟩
  | query => exact absurd rfl hs
  | compare _ _ _ ih => exact (ih (by simp)).append _
  | like _ _ _ _ ih | member _ _ _ _ ih | among _ _ _ ih | isNull _ _ ih =>
    simp only [List.append_assoc, List.cons_append]
    exact (ih (by simp)).append _
  | conjunction hne _ ih | disjunction hne _ ih =>
    exact noQuery_written hne fun x hx => ih x hx (by simp)

theorem opensQuery_opening {ls : List Lexeme} (h : NoQuery ls) :
    opensQuery (.opening :: ls) = false := by
  obtain ⟨l, rest, rfl, hl⟩ := h
  unfold opensQuery
  split
  · next h => simp_all
  · rfl

/-- A bracket in front of an operand opens a query. -/
theorem opensQuery_operand {ls : List Lexeme} {o : Operand} (h : Derives .operand ls o)
    (rest : List Lexeme) :
    (ls ++ rest).head? ≠ some .opening ∨ opensQuery (ls ++ rest) = true := by
  cases h with
  | column | number | placeholder | lower => exact Or.inl (by simp)
  | scalar hq =>
    cases hq
    -- the bracket of a subquery, with `SELECT` behind it
    exact Or.inr (by simp [brackets, opensQuery])

/-! ### Reading each alternative -/

/-- The tree is read off the front, whatever follows that does not continue it. Brackets take one
level each, so the lexemes bound the levels. -/
def ReadAs (s : Symbol) (ls : List Lexeme) (t : s.Tree) : Prop :=
  ∀ levels, ls.length ≤ levels → ∀ rest, s.Stops rest →
    read (levels + 1) s (ls ++ rest) = some (t, rest)

theorem ReadAs.inner {s : Symbol} {ls : List Lexeme} {t : s.Tree} (h : ReadAs s ls t)
    {levels : Nat} (hlevels : ls.length < levels) {rest : List Lexeme} (hrest : s.Stops rest) :
    read levels s (ls ++ rest) = some (t, rest) := by
  obtain ⟨levels, rfl⟩ : ∃ n, levels = n + 1 := ⟨levels - 1, by omega⟩
  exact h levels (by omega) rest hrest

theorem ReadAs.brackets {s : Symbol} {ls : List Lexeme} {t : s.Tree} (h : ReadAs s ls t)
    {levels : Nat} (hlevels : (brackets ls).length ≤ levels) (rest : List Lexeme) :
    readBracketed (read levels s) (Sql.brackets ls ++ rest) = some (t, rest) := by
  apply readBracketed_brackets
  apply h.inner _ (s.stops_closing rest)
  simp [Sql.brackets] at hlevels
  omega

theorem ReadAs.lower {ls : List Lexeme} {o : Operand} (h : ReadAs .operand ls o) :
    ReadAs .operand (.keyword .lower :: Sql.brackets ls) (.lower o) := by
  intro levels hlevels rest _
  have hlong : (Sql.brackets ls).length ≤ levels := by
    simp at hlevels
    omega
  have hread := h.brackets hlong rest
  simp [read, readOperand, hread]

theorem ReadAs.scalar {ls : List Lexeme} {q : Query} (h : ReadAs .query ls q) :
    ReadAs .operand (Sql.brackets ls) (.scalar q) := by
  intro levels hlevels rest _
  have hread := h.brackets hlevels rest
  rw [brackets_append] at hread ⊢
  simp [read, readOperand, hread]

theorem ReadAs.query {item condition : List Lexeme} {o : Operand} {e : Expr}
    (table qualifier : String) (ho : ReadAs .operand item o)
    (he : ReadAs .disjunction condition e) :
    ReadAs .query
      (.keyword .select :: item ++ .keyword .from :: .quoted table :: .name qualifier ::
        .keyword .where :: condition)
      (.select o table qualifier e) := by
  intro levels hlevels rest hrest
  simp only [List.length_append, List.length_cons] at hlevels
  have hitem : ∀ ls, read levels .operand (item ++ ls) = some (o, ls) :=
    fun ls => ho.inner (by omega) (Symbol.stops_operand ls)
  have hcondition : read levels .disjunction (condition ++ rest) = some (e, rest) :=
    he.inner (by omega) hrest
  simp [read, readQuery, hitem, hcondition]

theorem ReadAs.bracketed {ls : List Lexeme} {e : Expr} (hls : NoQuery ls)
    (h : ReadAs .disjunction ls e) : ReadAs .factor (Sql.brackets ls) e := by
  intro levels hlevels rest _
  have hread := h.brackets hlevels rest
  have hno : opensQuery (Sql.brackets ls ++ rest) = false := by
    rw [brackets_append]
    exact opensQuery_opening (hls.append _)
  have hhead : (Sql.brackets ls ++ rest).head? = some .opening := by simp [brackets_append]
  simp [read, readFactor, hno, hhead, hread]

/-- A factor that begins with an operand is read as a test of the operand. -/
theorem ReadAs.test {left : List Lexeme} {l : Operand} (hl : Derives .operand left l)
    (h : ReadAs .operand left l) {levels : Nat} (hlevels : left.length ≤ levels)
    (rest : List Lexeme) :
    read (levels + 1) .factor (left ++ rest) = readTest (read levels) l rest := by
  have hread : readOperand (read levels) (left ++ rest) = some (l, rest) :=
    h levels hlevels rest (Symbol.stops_operand rest)
  -- a bracket in front is the bracket of the operand, not that of a condition
  have hno : ¬ ((left ++ rest).head? = some .opening ∧ ¬ opensQuery (left ++ rest)) := by
    rintro ⟨hhead, hquery⟩
    rcases opensQuery_operand hl rest with h | h
    · exact h hhead
    · exact hquery h
  show readFactor (read levels) (left ++ rest) = _
  rw [readFactor, if_neg hno, hread]
  rfl

theorem ReadAs.compare {left right : List Lexeme} {l r : Operand} (c : Comparison)
    (hd : Derives .operand left l) (hl : ReadAs .operand left l) (hr : ReadAs .operand right r) :
    ReadAs .factor (left ++ .operator c :: right) (.compare l c r) := by
  intro levels hlevels rest _
  simp only [List.length_append, List.length_cons] at hlevels
  have hright : readOperand (read levels) (right ++ rest) = some (r, rest) :=
    hr levels (by omega) rest (Symbol.stops_operand rest)
  rw [List.append_assoc, hl.test hd (by omega), List.cons_append, readTest, hright]
  rfl

theorem ReadAs.isNull {left : List Lexeme} {l : Operand} (negated : Bool)
    (hd : Derives .operand left l) (hl : ReadAs .operand left l) :
    ReadAs .factor (left ++ .keyword .is :: notWord negated ++ [.keyword .null])
      (.isNull l negated) := by
  intro levels hlevels rest _
  simp only [List.length_append, List.length_cons] at hlevels
  rw [List.append_assoc, List.append_assoc, hl.test hd (by omega)]
  cases negated <;> rfl

theorem readTest_notWord {inner : (s : Symbol) → Reader s.Tree} (l : Operand) (negated : Bool)
    {k : Keyword} (hk : k = .like ∨ k = .in) (ls : List Lexeme) :
    readTest inner l (notWord negated ++ .keyword k :: ls) =
      readNegatable inner l negated (.keyword k :: ls) := by
  cases negated with
  | true => rfl
  | false => rcases hk with rfl | rfl <;> rfl

theorem readEscape_escapeClause (escape : Option String) {rest : List Lexeme}
    (hrest : rest.head? ≠ some (.keyword .escape)) :
    readEscape (escapeClause escape ++ rest) = (escape, rest) := by
  cases escape with
  | some s => rfl
  | none =>
    show readEscape rest = (none, rest)
    unfold readEscape
    split
    · simp at hrest
    · rfl

theorem ReadAs.like {left pattern : List Lexeme} {l p : Operand} (negated : Bool)
    (escape : Option String) (hd : Derives .operand left l) (hl : ReadAs .operand left l)
    (hp : ReadAs .operand pattern p) :
    ReadAs .factor (left ++ notWord negated ++ .keyword .like :: pattern ++ escapeClause escape)
      (.like l negated p escape) := by
  intro levels hlevels rest hrest
  simp only [List.length_append, List.length_cons] at hlevels
  have hpattern : readOperand (read levels) (pattern ++ (escapeClause escape ++ rest)) =
      some (p, escapeClause escape ++ rest) :=
    hp levels (by omega) _ (Symbol.stops_operand _)
  have hescape := readEscape_escapeClause escape (hrest .escape (by simp [Symbol.extensions]))
  simp only [List.append_assoc, List.cons_append]
  rw [hl.test hd (by omega), readTest_notWord l negated (.inl rfl), readNegatable, hpattern]
  simp [hescape]

theorem ReadAs.among {left ls : List Lexeme} {l : Operand} {q : Query} (negated : Bool)
    (hd : Derives .operand left l) (hl : ReadAs .operand left l) (hopens : Derives .query ls q)
    (hq : ReadAs .query ls q) :
    ReadAs .factor (left ++ notWord negated ++ .keyword .in :: Sql.brackets ls)
      (.among l negated q) := by
  intro levels hlevels rest _
  simp only [List.length_append, List.length_cons] at hlevels
  have hlong : (Sql.brackets ls).length ≤ levels := by omega
  have hquery := hq.brackets hlong rest
  have hopens : opensQuery (Sql.brackets ls ++ rest) = true := by
    cases hopens
    rfl
  simp only [List.append_assoc, List.cons_append]
  rw [hl.test hd (by omega), readTest_notWord l negated (.inr rfl), readNegatable, if_pos hopens,
    hquery]
  rfl

theorem ReadAs.member {left : List Lexeme} {l : Operand} (negated : Bool)
    {items : List (List Lexeme × Operand)} (hd : Derives .operand left l)
    (hl : ReadAs .operand left l) (hne : items ≠ []) (hstart : ∀ x ∈ items, NoQuery x.1)
    (hitems : ∀ x ∈ items, ReadAs .operand x.1 x.2) :
    ReadAs .factor (left ++ notWord negated ++ .keyword .in :: Sql.brackets (written .comma items))
      (.member l negated (items.map (·.2))) := by
  intro levels hlevels rest _
  have hlong : (written .comma items).length < levels := by
    simp [Sql.brackets] at hlevels
    omega
  simp only [List.length_append, List.length_cons] at hlevels
  have hitem : ∀ x ∈ items, ∀ ls, read levels .operand (x.1 ++ ls) = some (x.2, ls) := by
    intro x hx ls
    have := length_le_of_mem .comma hx
    exact (hitems x hx).inner (by omega) (Symbol.stops_operand ls)
  have hlist : readBracketed (readParts .comma (read levels .operand))
      (Sql.brackets (written .comma items) ++ rest) = some (items.map (·.2), rest) := by
    apply readBracketed_brackets
    exact readParts_written hne (by simp) (fun x hx => hitem x hx _) fun x hx _ => hitem x hx _
  have hopens : ¬ opensQuery (Sql.brackets (written .comma items) ++ rest) = true := by
    rw [brackets_append, opensQuery_opening ((noQuery_written hne hstart).append _)]
    simp
  simp only [List.append_assoc, List.cons_append]
  rw [hl.test hd (by omega), readTest_notWord l negated (.inr rfl), readNegatable, if_neg hopens,
    hlist]
  rfl

/-- Parts of one symbol with a keyword between them are read, if the keyword does not continue the
parts. -/
theorem ReadAs.parts {s : Symbol} {k : Keyword} (hk : k ∉ s.extensions)
    {parts : List (List Lexeme × s.Tree)} (hne : parts ≠ [])
    (h : ∀ x ∈ parts, ReadAs s x.1 x.2) {levels : Nat}
    (hlevels : (written (.keyword k) parts).length ≤ levels) {rest : List Lexeme}
    (hrest : s.Stops rest) (hend : rest.head? ≠ some (.keyword k)) :
    readParts (.keyword k) (read (levels + 1) s) (written (.keyword k) parts ++ rest) =
      some (parts.map (·.2), rest) := by
  have hpart : ∀ x ∈ parts, ∀ ls, s.Stops ls →
      read (levels + 1) s (x.1 ++ ls) = some (x.2, ls) := by
    intro x hx ls hls
    have := length_le_of_mem (.keyword k) hx
    exact h x hx levels (by omega) ls hls
  refine readParts_written hne hend (fun x hx => hpart x hx rest hrest) ?_
  intro x hx ls
  apply hpart x hx
  -- behind a part stands the keyword, and the keyword does not continue it
  intro k' hk' heq
  simp at heq
  exact hk (heq ▸ hk')

theorem ReadAs.conjunction {factors : List (List Lexeme × Expr)} (hne : factors ≠ [])
    (h : ∀ x ∈ factors, ReadAs .factor x.1 x.2) :
    ReadAs .conjunction (written (.keyword .and) factors) (.glued .and (factors.map (·.2))) := by
  intro levels hlevels rest hrest
  have hparts := ReadAs.parts (s := .factor) (by decide) hne h hlevels (hrest.mono (by decide))
    (hrest .and (by decide))
  show readConjunction (read levels) _ = _
  simp only [read] at hparts
  rw [readConjunction, hparts]
  rfl

theorem ReadAs.disjunction {conjunctions : List (List Lexeme × Expr)} (hne : conjunctions ≠ [])
    (h : ∀ x ∈ conjunctions, ReadAs .conjunction x.1 x.2) :
    ReadAs .disjunction (written (.keyword .or) conjunctions)
      (.glued .or (conjunctions.map (·.2))) := by
  intro levels hlevels rest hrest
  have hparts := ReadAs.parts (s := .conjunction) (by decide) hne h hlevels
    (hrest.mono (by decide)) (hrest .or (by decide))
  show readDisjunction (read levels) _ = _
  simp only [read] at hparts
  rw [readDisjunction, hparts]
  rfl

/-! ### Every derivation is read -/

/-- **Every derivation is read.** -/
theorem readAs_of_derives {s : Symbol} {ls : List Lexeme} {t : s.Tree} (h : Derives s ls t) :
    ReadAs s ls t := by
  induction h with
  | column | number | placeholder => exact fun _ _ _ _ => rfl
  | lower _ ih => exact ih.lower
  | scalar _ ih => exact ih.scalar
  | query table qualifier _ _ ho he => exact ho.query table qualifier he
  | bracketed hd ih => exact ih.bracketed (noQuery_of_derives hd (by simp))
  | compare c hd _ hl hr => exact hl.compare c hd hr
  | like negated escape hd _ hl hp => exact hl.like negated escape hd hp
  | member negated hd hne hitems hl ih =>
    exact hl.member negated hd hne (fun x hx => noQuery_of_derives (hitems x hx) (by simp)) ih
  | among negated hd hq hl ih => exact hl.among negated hd hq ih
  | isNull negated hd hl => exact hl.isNull negated hd
  | conjunction hne _ ih => exact .conjunction hne ih
  | disjunction hne _ ih => exact .disjunction hne ih

/-- **The grammar is unambiguous**: no text has two trees. -/
theorem derives_unique {s : Symbol} {ls : List Lexeme} {t u : s.Tree} (ht : Derives s ls t)
    (hu : Derives s ls u) : t = u := by
  have hend : s.Stops [] := fun _ _ => by simp
  have hread := (readAs_of_derives ht _ (Nat.le_refl _) [] hend).symm.trans
    (readAs_of_derives hu _ (Nat.le_refl _) [] hend)
  simpa using hread

-- `AND` binds tighter than `OR`
example :
    let test (n : Nat) : List Lexeme := [.placeholder n, .keyword .is, .keyword .null]
    let tree (n : Nat) : Expr := .isNull (.placeholder n) false
    read 1 .disjunction (test 1 ++ .keyword .or :: test 2 ++ .keyword .and :: test 3) =
      some (.any [tree 1, .all [tree 2, tree 3]], []) := rfl

end FilterQuery.Sql
