import FilterQuery.Sql.Predicate
import FilterQuery.Proofs.Sql.Grammar
import FilterQuery.Proofs.Sql.Layout

/-!
# Predicates are written by the grammar

The syntax tree of a predicate (`Predicate.expr`) needs to know what the text around it has used
up: how many aliases are open, and how many placeholders are taken. With that, the lexemes of a
predicate's tokens derive its tree (`derives_tokens`), and its layout is read as these lexemes
(`readable_tokens` and `lex?_layout`). That a property of tokens carries over from the parts to the
whole is shown once for all such properties (`Compositional.predicate`).

A junction of several conditions puts each between brackets. So a condition of any form may stand
in a junction of either glue, and `derives_junction` needs nothing about how tightly the glue inside
binds.
-/

namespace FilterQuery.Sql

/-! ### Lexemes of tokens -/

namespace Token

/-- The binding that a token names. -/
def binding? : Token → Option Binding
  | .column b _ | .star b | .table b => some b
  | _ => none

/-- The values that tokens bind. -/
def bindings (ts : List Token) : List Value :=
  ts.filterMap value?

@[simp] theorem bindings_nil : bindings [] = [] := rfl

@[simp] theorem bindings_append (ts us : List Token) :
    bindings (ts ++ us) = bindings ts ++ bindings us :=
  List.filterMap_append

@[simp] theorem bindings_bound (v : Value) (ts : List Token) :
    bindings (.bound v :: ts) = v :: bindings ts := rfl

theorem bindings_cons {t : Token} (ht : t.value? = none) (ts : List Token) :
    bindings (t :: ts) = bindings ts := by
  simp [bindings, ht]

@[simp] theorem lexemesFrom_nil (n : Nat) : lexemesFrom n [] = [] := rfl

theorem lexemesFrom_cons {t : Token} (ht : t.value? = none) (n : Nat) (ts : List Token) :
    lexemesFrom n (t :: ts) = t.lexemes n ++ lexemesFrom n ts := by
  simp [lexemesFrom, after, ht]

@[simp] theorem lexemesFrom_bound (n : Nat) (v : Value) (ts : List Token) :
    lexemesFrom n (.bound v :: ts) = .placeholder n :: lexemesFrom (n + 1) ts := rfl

/-- Later tokens number their placeholders behind those of the earlier ones. -/
theorem lexemesFrom_append (n : Nat) (ts us : List Token) :
    lexemesFrom n (ts ++ us) = lexemesFrom n ts ++ lexemesFrom (n + (bindings ts).length) us := by
  induction ts generalizing n with
  | nil => rfl
  | cons t ts ih =>
    rw [List.cons_append, lexemesFrom, lexemesFrom, ih, List.append_assoc]
    cases t with
    | bound v =>
      -- only a bound value takes a placeholder
      have hnext : n + 1 + (bindings ts).length = n + (bindings (.bound v :: ts)).length := by
        simp
        omega
      rw [← hnext]
      rfl
    | _ => rfl

/-- The lexemes of each of several parts, one after the other. -/
def lexemesEach (n : Nat) : List (List Token) → List (List Lexeme)
  | [] => []
  | part :: parts => lexemesFrom n part :: lexemesEach (n + (bindings part).length) parts

end Token

namespace Predicate

open Token (bindings bindings_nil bindings_append bindings_bound bindings_cons lexemesFrom
  lexemesFrom_nil lexemesFrom_bound lexemesFrom_cons lexemesFrom_append lexemesEach Applied)

@[simp] theorem bindings_bracketed (ts : List Token) :
    bindings (bracketed ts) = bindings ts := by
  show bindings (.opening :: (ts ++ [.closing])) = _
  rw [bindings_cons rfl, bindings_append, bindings_cons rfl]
  simp

@[simp] theorem lexemesFrom_bracketed (n : Nat) (ts : List Token) :
    lexemesFrom n (bracketed ts) = brackets (lexemesFrom n ts) := by
  show lexemesFrom n (.opening :: ts ++ [.closing]) = _
  rw [List.cons_append, lexemesFrom_cons rfl, lexemesFrom_append]
  rfl

theorem lexemesEach_bracketed (n : Nat) (parts : List (List Token)) :
    lexemesEach n (parts.map bracketed) = (lexemesEach n parts).map brackets := by
  induction parts generalizing n with
  | nil => rfl
  | cons part parts ih => simp [lexemesEach, ih]

theorem bindings_separated {separator : Token} (hs : separator.value? = none)
    (parts : List (List Token)) :
    bindings (separated separator parts) = parts.flatMap bindings := by
  induction parts with
  | nil => rfl
  | cons part parts ih =>
    cases parts with
    | nil => simp [separated]
    | cons next parts =>
      simp only [separated, List.intercalate_cons_cons, bindings_append] at ih ⊢
      rw [ih, bindings_cons hs]
      simp

theorem lexemesFrom_separated {separator : Token} {l : Lexeme}
    (hl : ∀ n, separator.lexemes n = [l]) (hs : separator.value? = none) (n : Nat)
    (parts : List (List Token)) :
    lexemesFrom n (separated separator parts) = [l].intercalate (lexemesEach n parts) := by
  induction parts generalizing n with
  | nil => rfl
  | cons part parts ih =>
    cases parts with
    | nil => simp [separated, lexemesEach]
    | cons next parts =>
      simp only [separated, List.intercalate_cons_cons, lexemesFrom_append, bindings_append,
        bindings_cons hs, bindings_nil, List.append_nil, lexemesFrom_cons hs, hl,
        lexemesFrom_nil] at ih ⊢
      rw [ih]
      simp [lexemesEach, List.intercalate_cons_cons]

/-! ### Putting tokens together -/

def glueWord : Glue → Keyword
  | .and => .and
  | .or => .or

theorem junctionTokens_cons_cons (glue : Glue) (part next : List Token)
    (parts : List (List Token)) :
    junctionTokens glue (part :: next :: parts) =
      separated (.keyword (glueWord glue)) ((part :: next :: parts).map bracketed) := by
  cases glue <;> rfl

/-- A property of tokens that is kept when they are put together as in a predicate, as long as the
bindings that they name fulfil `Q`. -/
structure Compositional (Q : Binding → Prop) (P : List Token → Prop) : Prop where
  append {ts us : List Token} : P ts → P us → P (ts ++ us)
  plain {ts : List Token} :
    (∀ t ∈ ts, t ≠ .keyword .lower ∧ ∀ b, t.binding? = some b → Q b) → P ts
  /-- `LOWER` stands before brackets only. -/
  lower {ts : List Token} : P (bracketed ts) → P (.keyword .lower :: bracketed ts)

section

variable {Q : Binding → Prop} {P : List Token → Prop}

theorem Compositional.bracketed (h : Compositional Q P) {ts : List Token} (hts : P ts) :
    P (Predicate.bracketed ts) := by
  have hopening : P [.opening] := h.plain (by simp [Token.binding?])
  have hclosing : P [.closing] := h.plain (by simp [Token.binding?])
  exact h.append (h.append hopening hts) hclosing

theorem Compositional.separated (h : Compositional Q P) {separator : Token} (hs : P [separator])
    {parts : List (List Token)} (hparts : ∀ part ∈ parts, P part) :
    P (Predicate.separated separator parts) := by
  induction parts with
  | nil => exact h.plain (by simp [Predicate.separated])
  | cons part parts ih =>
    obtain ⟨hpart, hparts⟩ := List.forall_mem_cons.mp hparts
    cases parts with
    | nil => simpa [Predicate.separated] using hpart
    | cons next parts =>
      have hrest := ih hparts
      simp only [Predicate.separated, List.intercalate_cons_cons] at hrest ⊢
      exact h.append (h.append hpart hs) hrest

theorem Compositional.constant (h : Compositional Q P) (holds : Bool) : P (constantTokens holds) :=
  h.plain (by simp [constantTokens, Token.binding?])

theorem Compositional.junction (h : Compositional Q P) (glue : Glue) {parts : List (List Token)}
    (hparts : ∀ part ∈ parts, P part) : P (junctionTokens glue parts) := by
  match parts, hparts with
  | [], _ => exact h.constant _
  | [part], hparts => exact hparts part (by simp)
  | part :: next :: parts, hparts =>
    rw [junctionTokens_cons_cons]
    apply h.separated
    · exact h.plain (by cases glue <;> simp [glueWord, Token.binding?])
    · intro ts hts
      obtain ⟨part, hpart, rfl⟩ := List.mem_map.mp hts
      exact h.bracketed (hparts part hpart)

theorem Compositional.null (h : Compositional Q P) {b : Binding} (hb : Q b) (field : String) :
    P (nullTokens b field) :=
  h.plain (by simp [nullTokens, Token.binding?, hb])

theorem Compositional.membership (h : Compositional Q P) {b : Binding} (hb : Q b) (field : String)
    (negated : Bool) : P (memberTokens b field negated) :=
  h.plain (by cases negated <;> simp [memberTokens, Token.binding?, hb])

mutual

/-- **The tokens of a predicate are put together from its parts.** They name the row that it is
about, and rows that it opens itself under numbered aliases. -/
theorem Compositional.predicate (h : Compositional Q P)
    (hnumbered : ∀ table n, Q (.numbered table n)) {b : Binding} (hb : Q b) (next : Nat) :
    (p : Predicate) → P (p.tokens b next)
  | .everything => h.constant true
  | .nothing => h.constant false
  | .compare field c value => h.plain (by simp [tokens, Token.binding?, hb])
  | .like field pattern escaped => by
    -- the one place of `LOWER`
    have hcolumn : P [.column b field] := h.plain (by simp [Token.binding?, hb])
    have hpattern : P [.keyword .like, .bound (.string pattern)] :=
      h.plain (by simp [Token.binding?])
    have hescape : P (if escaped then [.keyword .escape, .escapeMark] else []) :=
      h.plain (by cases escaped <;> simp [Token.binding?])
    exact h.append (h.append (h.lower (h.bracketed hcolumn)) hpattern) hescape
  | .member field negated values => by
    have hcomma : P [.comma] := h.plain (by simp [Token.binding?])
    have hvalues : ∀ part ∈ values.map fun v => [Token.bound v], P part := by
      intro part hpart
      obtain ⟨v, -, rfl⟩ := List.mem_map.mp hpart
      exact h.plain (by simp [Token.binding?])
    rw [tokens]
    split
    · exact h.constant false
    · exact h.append (h.membership hb field negated) (h.bracketed (h.separated hcomma hvalues))
  | .isNull field => h.null hb field
  | .all ps => h.junction .and (h.predicates hnumbered hb next ps)
  | .any ps => h.junction .or (h.predicates hnumbered hb next ps)
  | .subquery field operation table filter => by
    have hinner := hnumbered table next
    have hfilter := h.predicate hnumbered hinner (next + 1) filter
    have hselect : P [.keyword .select, .column (.numbered table next) field, .keyword .from,
        .table (.numbered table next), .keyword .where] :=
      h.plain (by simp [Token.binding?, hinner])
    have hquery := h.bracketed (h.append hselect hfilter)
    cases operation with
    | isNull => exact h.null hb field
    | member negated => exact h.append (h.membership hb field negated) hquery
    | compare c =>
      have hleft : P [.column b field, .operator c] := h.plain (by simp [Token.binding?, hb])
      exact h.append hleft hquery

theorem Compositional.predicates (h : Compositional Q P)
    (hnumbered : ∀ table n, Q (.numbered table n)) {b : Binding} (hb : Q b) (next : Nat) :
    (ps : List Predicate) → ∀ part ∈ tokensAll b next ps, P part
  | [], part, hpart => by simp [tokensAll] at hpart
  | p :: ps, part, hpart => by
    rw [tokensAll, List.mem_cons] at hpart
    rcases hpart with rfl | hpart
    · exact h.predicate hnumbered hb next p
    · exact h.predicates hnumbered hb _ ps part hpart

end

end

/-! ### Layouts that are read back -/

/-- Tokens whose layout is read as their lexemes. -/
structure Readable (ts : List Token) : Prop where
  aliased : ∀ t ∈ ts, t.Aliased
  applied : Applied ts

theorem Readable.append {ts us : List Token} (ht : Readable ts) (hu : Readable us) :
    Readable (ts ++ us) := by
  obtain ⟨haliased, happlied⟩ := ht
  constructor
  · intro t ht
    rcases List.mem_append.mp ht with ht | ht
    · exact haliased t ht
    · exact hu.aliased t ht
  · clear haliased
    induction ts with
    | nil => exact hu.applied
    | cons t ts ih =>
      obtain ⟨hhead, htail⟩ := happlied
      -- `LOWER` is not the last token, so what comes behind it is not moved
      refine ⟨fun hlower => ?_, ih htail⟩
      have hopening := hhead hlower
      simp [hopening]

/-- Without `LOWER` only the aliases matter. -/
theorem readable_plain {ts : List Token} (h : ∀ t ∈ ts, t.Aliased ∧ t ≠ .keyword .lower) :
    Readable ts := by
  refine ⟨fun t ht => (h t ht).1, ?_⟩
  induction ts with
  | nil => trivial
  | cons t ts ih =>
    have ht := (h t (by simp)).2
    exact ⟨fun hlower => absurd hlower ht, ih fun u hu => h u (by simp [hu])⟩

theorem Readable.lower {ts : List Token} (h : Readable (bracketed ts)) :
    Readable (.keyword .lower :: bracketed ts) := by
  obtain ⟨haliased, happlied⟩ := h
  constructor
  · intro t ht
    rcases List.mem_cons.mp ht with rfl | ht
    · trivial
    · exact haliased t ht
  · exact ⟨fun _ => rfl, happlied⟩

theorem compositional_readable :
    Compositional (fun b => Lexeme.IsName b.qualifier) Readable where
  append := Readable.append
  lower := Readable.lower
  plain {ts} h := by
    apply readable_plain
    intro t ht
    obtain ⟨hlower, hnames⟩ := h t ht
    refine ⟨?_, hlower⟩
    cases t with
    | column b _ | star b | table b => exact hnames b rfl
    | _ => trivial

theorem readable_separated {separator : Token} (hs : Readable [separator])
    {parts : List (List Token)} (h : ∀ part ∈ parts, Readable part) :
    Readable (separated separator parts) :=
  compositional_readable.separated hs h

/-- The layout of a predicate is read as its lexemes, if the alias of its row is a name. -/
theorem readable_tokens {b : Binding} (hb : Lexeme.IsName b.qualifier) (next : Nat)
    (p : Predicate) : Readable (p.tokens b next) :=
  compositional_readable.predicate Lexeme.isName_numbered hb next p

/-! ### Bound values -/

mutual

/-- The values that a predicate binds, from left to right. -/
def values : Predicate → List Value
  | .compare _ _ value => [value]
  | .like _ pattern _ => [.string pattern]
  | .member _ _ values => values
  | .all ps => valuesAll ps
  | .any ps => valuesAll ps
  | .subquery _ operation _ filter => if operation = .isNull then [] else filter.values
  | _ => []

def valuesAll : List Predicate → List Value
  | [] => []
  | p :: ps => p.values ++ valuesAll ps

end

theorem bindings_memberTokens (b : Binding) (field : String) (negated : Bool) :
    bindings (memberTokens b field negated) = [] := by
  cases negated <;> rfl

theorem bindings_junctionTokens (glue : Glue) (parts : List (List Token)) :
    bindings (junctionTokens glue parts) = parts.flatMap bindings := by
  match parts with
  | [] => rfl
  | [part] => simp [junctionTokens]
  | part :: next :: parts =>
    rw [junctionTokens_cons_cons, bindings_separated rfl]
    simp [List.flatMap_map]

mutual

theorem bindings_tokens (b : Binding) (next : Nat) :
    (p : Predicate) → bindings (p.tokens b next) = p.values
  | .everything | .nothing | .compare .. | .isNull _ => rfl
  | .like field pattern escaped => by cases escaped <;> rfl
  | .member field negated values => by
    have hitems : values.flatMap (fun v => bindings [.bound v]) = values := by
      simp [List.flatMap_singleton']
    rw [tokens]
    split
    · next h => rw [h]; rfl
    · rw [bindings_append, bindings_memberTokens, bindings_bracketed, bindings_separated rfl,
        List.flatMap_map, hitems]
      rfl
  | .all ps => by rw [tokens, bindings_junctionTokens, bindings_tokensAll]; rfl
  | .any ps => by rw [tokens, bindings_junctionTokens, bindings_tokensAll]; rfl
  | .subquery field operation table filter => by
    have hfilter := bindings_tokens (.numbered table next) (next + 1) filter
    cases operation with
    | isNull => rfl
    | member negated =>
      rw [tokens, bindings_append, bindings_memberTokens, bindings_bracketed, bindings_append,
        hfilter]
      rfl
    | compare c =>
      rw [tokens, bindings_append, bindings_bracketed, bindings_append, hfilter]
      rfl

theorem bindings_tokensAll (b : Binding) (next : Nat) :
    (ps : List Predicate) → (tokensAll b next ps).flatMap bindings = valuesAll ps
  | [] => rfl
  | p :: ps => by
    rw [tokensAll, List.flatMap_cons, bindings_tokens, bindings_tokensAll]
    rfl

end

/-! ### Syntax trees -/

/-- The tree of a condition that is the same for every row. -/
def constantExpr (holds : Bool) : Expr :=
  .compare (.number 1) .equal (.number (if holds then 1 else 0))

/-- The tree of several conditions under a glue. -/
def junctionExpr (glue : Glue) : List Expr → Expr
  | [] => constantExpr (glue = .and)
  | es => .glued glue es

def columnOperand (b : Binding) (field : String) : Operand :=
  .column b.qualifier field

mutual

/-- The tree of a predicate about the row of `b`. The aliases it opens are numbered from `next`,
and its placeholders from `n`. -/
def expr (b : Binding) (next n : Nat) : Predicate → Expr
  | .everything => constantExpr true
  | .nothing => constantExpr false
  | .compare field c _ => .compare (columnOperand b field) c (.placeholder n)
  | .like field _ escaped =>
    .like (.lower (columnOperand b field)) false (.placeholder n)
      (if escaped then some (String.singleton likeEscape) else none)
  | .member field negated values =>
    if values = [] then constantExpr false
    else .member (columnOperand b field) negated
      ((List.range' n values.length).map .placeholder)
  | .isNull field => .isNull (columnOperand b field) false
  | .all ps => junctionExpr .and (exprAll b next n ps)
  | .any ps => junctionExpr .or (exprAll b next n ps)
  | .subquery field operation table filter =>
    let inner := Binding.numbered table next
    let query := Query.select (columnOperand inner field) table inner.qualifier
      (filter.expr inner (next + 1) n)
    match operation with
    | .isNull => .isNull (columnOperand b field) false
    | .member negated => .among (columnOperand b field) negated query
    | .compare c => .compare (columnOperand b field) c (.scalar query)

def exprAll (b : Binding) (next n : Nat) : List Predicate → List Expr
  | [] => []
  | p :: ps => p.expr b next n :: exprAll b (next + p.openings) (n + p.values.length) ps

end

/-! ### Derivations -/

-- a single part stands for itself

theorem derives_conjunction {ls : List Lexeme} {e : Expr} (h : Derives .factor ls e) :
    Derives .conjunction ls e := by
  have hone := @Derives.conjunction [(ls, e)] (by simp) (by simpa using h)
  simpa [written, Expr.glued] using hone

theorem derives_disjunction {ls : List Lexeme} {e : Expr} (h : Derives .conjunction ls e) :
    Derives .disjunction ls e := by
  have hone := @Derives.disjunction [(ls, e)] (by simp) (by simpa using h)
  simpa [written, Expr.glued] using hone

/-- Factors under either glue are a disjunction. -/
theorem derives_glued (glue : Glue) {factors : List (List Lexeme × Expr)} (hne : factors ≠ [])
    (h : ∀ x ∈ factors, Derives .factor x.1 x.2) :
    Derives .disjunction (written (.keyword (glueWord glue)) factors)
      (.glued glue (factors.map (·.2))) := by
  cases glue with
  | and => exact derives_disjunction (.conjunction hne h)
  | or => exact .disjunction hne fun x hx => derives_conjunction (h x hx)

theorem derives_constant (n : Nat) (holds : Bool) :
    Derives .disjunction (lexemesFrom n (constantTokens holds)) (constantExpr holds) := by
  apply derives_disjunction
  apply derives_conjunction
  exact .compare .equal (.number 1) (.number _)

theorem derives_column (b : Binding) (field : String) :
    Derives .operand [.name b.qualifier, .dot, .quoted field] (columnOperand b field) :=
  .column b.qualifier field

theorem derives_junction (glue : Glue) (n : Nat) {parts : List (List Token)}
    {pairs : List (List Lexeme × Expr)} (hparts : lexemesEach n parts = pairs.map (·.1))
    (h : ∀ x ∈ pairs, Derives .disjunction x.1 x.2) :
    Derives .disjunction (lexemesFrom n (junctionTokens glue parts))
      (junctionExpr glue (pairs.map (·.2))) := by
  match parts, pairs with
  | [], [] => exact derives_constant n _
  | [part], [x] =>
    have hx := h x (by simp)
    have heq : lexemesFrom n part = x.1 := by simpa [lexemesEach] using hparts
    rw [← heq] at hx
    exact hx
  | part :: next :: parts, x :: y :: pairs =>
    -- between brackets every part is a factor
    let factors := (x :: y :: pairs).map fun x => (brackets x.1, x.2)
    have hfactors : ∀ x ∈ factors, Derives .factor x.1 x.2 := by
      intro z hz
      obtain ⟨w, hw, rfl⟩ := List.mem_map.mp hz
      exact .bracketed (h w hw)
    have hwritten : lexemesFrom n (junctionTokens glue (part :: next :: parts)) =
        written (.keyword (glueWord glue)) factors := by
      rw [junctionTokens_cons_cons, lexemesFrom_separated (fun _ => rfl) rfl,
        lexemesEach_bracketed, hparts]
      simp [written, factors, Function.comp_def]
    have htrees : factors.map (·.2) = (x :: y :: pairs).map (·.2) := by
      simp [factors, Function.comp_def]
    rw [hwritten, ← htrees]
    exact derives_glued glue (by simp [factors]) hfactors
  | [], _ :: _ | [_], [] | [_], _ :: _ :: _ | _ :: _ :: _, [] | _ :: _ :: _, [_] =>
    simp [lexemesEach] at hparts

theorem lexemesFrom_memberTokens (n : Nat) (b : Binding) (field : String) (negated : Bool) :
    lexemesFrom n (memberTokens b field negated) =
      [.name b.qualifier, .dot, .quoted field] ++ notWord negated ++ [.keyword .in] := by
  cases negated <;> rfl

theorem lexemesEach_bound (n : Nat) (values : List Value) :
    lexemesEach n (values.map fun v => [.bound v]) =
      (List.range' n values.length).map fun i => [.placeholder i] := by
  induction values generalizing n with
  | nil => rfl
  | cons v values ih =>
    have hrest := ih (n + 1)
    simpa [lexemesEach, List.range'_succ] using hrest

mutual

/-- **The tokens of a predicate are written by the grammar** and stand for its tree. -/
theorem derives_tokens (b : Binding) (next n : Nat) :
    (p : Predicate) →
      Derives .disjunction (lexemesFrom n (p.tokens b next)) (p.expr b next n)
  | .everything => derives_constant n true
  | .nothing => derives_constant n false
  | .compare field c value => by
    apply derives_disjunction
    apply derives_conjunction
    exact .compare c (derives_column b field) (.placeholder n)
  | .like field pattern escaped => by
    apply derives_disjunction
    apply derives_conjunction
    have hlike := Derives.like false (if escaped then some (String.singleton likeEscape) else none)
      (.lower (derives_column b field)) (.placeholder n)
    cases escaped <;> exact hlike
  | .member field negated values => by
    rw [tokens, expr]
    split
    · exact derives_constant n false
    · next hne =>
      apply derives_disjunction
      apply derives_conjunction
      -- the items take placeholders in a row
      let items := (List.range' n values.length).map fun i =>
        ([Lexeme.placeholder i], Operand.placeholder i)
      have hitems : ∀ x ∈ items, Derives .operand x.1 x.2 := by
        intro x hx
        obtain ⟨i, -, rfl⟩ := List.mem_map.mp hx
        exact .placeholder i
      have hnonempty : items ≠ [] := by simpa [items] using hne
      have hmember := Derives.member negated (derives_column b field) hnonempty hitems
      have hwritten : written .comma items =
          lexemesFrom n (separated .comma (values.map fun v => [.bound v])) := by
        rw [lexemesFrom_separated (fun _ => rfl) rfl, lexemesEach_bound]
        simp [written, items, Function.comp_def]
      have htrees : items.map (·.2) = (List.range' n values.length).map .placeholder := by
        simp [items, Function.comp_def]
      rw [htrees, hwritten] at hmember
      rw [lexemesFrom_append, bindings_memberTokens, lexemesFrom_bracketed,
        lexemesFrom_memberTokens]
      simpa using hmember
  | .isNull field => by
    apply derives_disjunction
    apply derives_conjunction
    exact .isNull false (derives_column b field)
  | .all ps => by
    obtain ⟨pairs, hparts, htrees, h⟩ := derives_tokensAll b next n ps
    rw [tokens, expr, ← htrees]
    exact derives_junction .and n hparts h
  | .any ps => by
    obtain ⟨pairs, hparts, htrees, h⟩ := derives_tokensAll b next n ps
    rw [tokens, expr, ← htrees]
    exact derives_junction .or n hparts h
  | .subquery field operation table filter => by
    have hfilter := derives_tokens (.numbered table next) (next + 1) n filter
    have hquery := Derives.query table (Binding.numbered table next).qualifier
      (derives_column (.numbered table next) field) hfilter
    have hcolumn := derives_column b field
    apply derives_disjunction
    apply derives_conjunction
    cases operation with
    | isNull => exact .isNull false hcolumn
    | member negated =>
      have hamong := Derives.among negated hcolumn hquery
      rw [tokens, expr, lexemesFrom_append, bindings_memberTokens, lexemesFrom_bracketed,
        lexemesFrom_memberTokens, lexemesFrom_append]
      -- the tokens and the grammar nest their appends differently
      rw [List.append_assoc] at hamong ⊢
      exact hamong
    | compare c =>
      rw [tokens, expr, lexemesFrom_append, lexemesFrom_bracketed, lexemesFrom_append]
      exact .compare c hcolumn (.scalar hquery)

theorem derives_tokensAll (b : Binding) (next n : Nat) :
    (ps : List Predicate) → ∃ pairs : List (List Lexeme × Expr),
      lexemesEach n (tokensAll b next ps) = pairs.map (·.1) ∧
      pairs.map (·.2) = exprAll b next n ps ∧ ∀ x ∈ pairs, Derives .disjunction x.1 x.2
  | [] => ⟨[], rfl, rfl, by simp⟩
  | p :: ps => by
    have hp := derives_tokens b next n p
    obtain ⟨pairs, hparts, htrees, h⟩ :=
      derives_tokensAll b (next + p.openings) (n + p.values.length) ps
    refine ⟨(lexemesFrom n (p.tokens b next), p.expr b next n) :: pairs, ?_, ?_, ?_⟩
    · rw [tokensAll, lexemesEach, bindings_tokens, hparts]
      rfl
    · rw [exprAll, ← htrees]
      rfl
    · intro x hx
      rcases List.mem_cons.mp hx with rfl | hx
      · exact hp
      · exact h x hx

end

end Predicate

end FilterQuery.Sql
