import FilterQuery.Proofs.Sql.Rendering

/-!
# Placeholders stand for the bound values

A rendered predicate is a text and a list of values, and the database puts the values in the places
of the placeholders. Three facts make this safe, for every predicate:

* the list holds the predicate's values from left to right (`bindings_tokens`);
* outside quoted names the text holds `?1`, `?2` and so on up to the number of values, each once
  and in this order (`placeholdersIn_chars`), because every other token is quiet: a name may hold
  quotes and question marks, but its own quotes keep them from being read;
* the values leave no trace in the text: predicates that differ in nothing but their values have
  the same text (`chars_blank`, `blank_tokens`).
-/

namespace FilterQuery.Sql

/-! ### Placeholders of a text -/

/-- The placeholders of a text outside double quotes: each question mark and the digits behind
it. -/
def placeholdersIn : (quoted : Bool) → List Char → List String
  | _, [] => []
  | quoted, c :: cs =>
    if c = '"' then placeholdersIn (!quoted) cs
    else if c = '?' ∧ quoted = false then
      String.ofList (c :: cs.takeWhile Char.isDigit) :: placeholdersIn quoted cs
    else placeholdersIn quoted cs

/-- The placeholders of a text outside quoted names, in the order of the text. -/
def placeholders (sql : String) : List String :=
  placeholdersIn false sql.toList

/-- Whether the quotes of a text are closed, with no question mark outside them. -/
def quietIn : (quoted : Bool) → List Char → Bool
  | quoted, [] => !quoted
  | quoted, c :: cs =>
    if c = '"' then quietIn (!quoted) cs else (quoted || c != '?') && quietIn quoted cs

/-- A text that neither holds a placeholder nor hides one behind it. Every identifier is, plain or
quoted. -/
def Quiet (s : String) : Prop :=
  quietIn false s.toList = true

instance (s : String) : Decidable (Quiet s) :=
  inferInstanceAs (Decidable (quietIn false s.toList = true))

theorem quietIn_append {quoted : Bool} {cs ds : List Char} (hcs : quietIn quoted cs = true)
    (hds : quietIn false ds = true) : quietIn quoted (cs ++ ds) = true := by
  induction cs generalizing quoted with
  | nil =>
    obtain rfl : quoted = false := by simpa [quietIn] using hcs
    exact hds
  | cons c cs ih =>
    rw [List.cons_append, quietIn]
    rw [quietIn] at hcs
    split
    · next hc =>
      rw [if_pos hc] at hcs
      exact ih hcs
    · next hc =>
      rw [if_neg hc, Bool.and_eq_true] at hcs
      rw [Bool.and_eq_true]
      exact ⟨hcs.1, ih hcs.2⟩

/-- Nothing in a quiet text is read as a placeholder, and what comes behind it is read as if
nothing came before. -/
theorem placeholdersIn_append {quoted : Bool} {cs : List Char} (hcs : quietIn quoted cs = true)
    (rest : List Char) : placeholdersIn quoted (cs ++ rest) = placeholdersIn false rest := by
  induction cs generalizing quoted with
  | nil =>
    obtain rfl : quoted = false := by simpa [quietIn] using hcs
    rfl
  | cons c cs ih =>
    rw [List.cons_append, placeholdersIn]
    rw [quietIn] at hcs
    split
    · next hc =>
      rw [if_pos hc] at hcs
      exact ih hcs
    · next hc =>
      rw [if_neg hc, Bool.and_eq_true] at hcs
      have hmark : ¬ (c = '?' ∧ quoted = false) := by
        rintro ⟨rfl, rfl⟩
        simp at hcs
      rw [if_neg hmark]
      exact ih hcs.2

theorem quietIn_word {cs : List Char} (h : ∀ c ∈ cs, Lexeme.isWordChar c = true) :
    quietIn false cs = true := by
  induction cs with
  | nil => rfl
  | cons c cs ih =>
    obtain ⟨hc, hcs⟩ := List.forall_mem_cons.mp h
    have hquote : c ≠ '"' := by
      rintro rfl
      exact absurd hc (by decide)
    have hmark : c ≠ '?' := by
      rintro rfl
      exact absurd hc (by decide)
    simp [quietIn, hquote, hmark, ih hcs]

theorem quietIn_toDigits (n : Nat) : quietIn false (Nat.toDigits 10 n) = true := by
  apply quietIn_word
  intro c hc
  simp [Lexeme.isWordChar, Char.isAlphanum, Lexeme.isDigit_of_mem_toDigits hc]

theorem quiet_name {s : String} (hs : Lexeme.IsName s) : Quiet s :=
  quietIn_word hs.word

/-- Whatever a name holds, its quotes are closed behind it and not before. -/
theorem quiet_quoteName (name : String) : Quiet (quoteName name) := by
  have hname : (quoteName name).toList = '"' :: (Lexeme.double '"' name.toList ++ ['"']) := by
    simp [quoteName, Lexeme.double]
  rw [Quiet, hname]
  show quietIn true (Lexeme.double '"' name.toList ++ ['"']) = true
  induction name.toList with
  | nil => rfl
  | cons c cs ih =>
    by_cases hc : c = '"'
    · subst hc
      have hdouble : Lexeme.double '"' ('"' :: cs) = '"' :: '"' :: Lexeme.double '"' cs := by
        simp [Lexeme.double]
      rw [hdouble]
      exact ih
    · have hdouble : Lexeme.double '"' (c :: cs) = c :: Lexeme.double '"' cs := by
        simp [Lexeme.double, hc]
      rw [hdouble, List.cons_append, quietIn, if_neg hc]
      exact ih

/-! ### Placeholders of tokens -/

namespace Token

/-- A token binds a value, or its text holds no placeholder. -/
theorem quiet_text {t : Token} (hvalue : t.value? = none)
    (hbinding : ∀ b, t.binding? = some b → Quiet b.qualifier) (n : Nat) : Quiet (t.text n) := by
  cases t with
  | keyword k =>
    show Quiet k.text
    cases k <;> rfl
  | operator c =>
    show Quiet (operatorText c)
    cases c <;> rfl
  | number m =>
    have htext : ((Token.number m).text n).toList = Nat.toDigits 10 m := by simp [text]
    rw [Quiet, htext]
    exact quietIn_toDigits m
  | column b field =>
    have htext : ((Token.column b field).text n).toList =
        b.qualifier.toList ++ (['.'] ++ (quoteName field).toList) := by
      simp [text, Binding.column]
    rw [Quiet, htext]
    exact quietIn_append (hbinding b rfl) (quietIn_append (by decide) (quiet_quoteName field))
  | star b =>
    have htext : ((Token.star b).text n).toList = b.qualifier.toList ++ ['.', '*'] := by
      simp [text]
    rw [Quiet, htext]
    exact quietIn_append (hbinding b rfl) (by decide)
  | table b =>
    have htext : ((Token.table b).text n).toList =
        (quoteName b.table).toList ++ ([' '] ++ b.qualifier.toList) := by
      simp [text, Binding.fromItem]
    rw [Quiet, htext]
    exact quietIn_append (quiet_quoteName b.table) (quietIn_append (by decide) (hbinding b rfl))
  | bound v => cases hvalue
  | escapeMark | opening | closing | comma => simp [Quiet, text, quietIn, likeEscape]

theorem placeholdersIn_bound (n : Nat) (v : Value) {rest : List Char} (hrest : Ends rest) :
    placeholdersIn false (((Token.bound v).text n).toList ++ rest) =
      Fragment.placeholder n :: placeholdersIn false rest := by
  have htext : ((Token.bound v).text n).toList = '?' :: Nat.toDigits 10 n := by
    simp [text, Fragment.placeholder]
  have hdigits : ∀ c ∈ Nat.toDigits 10 n, c.isDigit = true := fun _ =>
    Lexeme.isDigit_of_mem_toDigits
  have hmark : String.ofList ('?' :: Nat.toDigits 10 n) = Fragment.placeholder n := by
    rw [← htext, String.ofList_toList]
    rfl
  rw [htext, List.cons_append, placeholdersIn, if_neg (by decide), if_pos ⟨rfl, rfl⟩,
    Lexeme.takeWhile_append hdigits (hrest.startsOff rfl),
    placeholdersIn_append (quietIn_toDigits n), hmark]

/-- Behind the text of a token comes a gap and then the other tokens; something ends the text of a
placeholder. -/
theorem exists_gap (n : Nat) (t : Token) (ts : List Token) :
    ∃ gap, quietIn false gap = true ∧
      chars n (t :: ts) = (t.text n).toList ++ (gap ++ chars (t.after n) ts) ∧
      (t.value? ≠ none → Ends (gap ++ chars (t.after n) ts)) := by
  cases ts with
  | nil => exact ⟨[], rfl, by simp, by simp [Ends]⟩
  | cons u ts =>
    refine ⟨if t.abuts u then [] else [' '], ?_, chars_cons_cons n t u ts, ?_⟩
    · split <;> rfl
    · intro hbound
      split
      · next habuts =>
        -- only a closing bracket or a comma stands so close to a placeholder
        have hu : u = .opening ∨ u = .closing ∨ u = .comma := by
          cases t with
          | bound v => simpa [abuts] using Or.inr habuts
          | _ => exact absurd rfl hbound
        exact ends_chars _ hu ts
      · simp [Ends]

/-- **The placeholders of a layout** are numbered in order, one for each bound value. -/
theorem placeholdersIn_chars {ts : List Token}
    (h : ∀ t ∈ ts, ∀ b, t.binding? = some b → Quiet b.qualifier) (n : Nat) :
    placeholdersIn false (chars n ts) =
      (List.range' n (bindings ts).length).map Fragment.placeholder := by
  induction ts generalizing n with
  | nil => simp [placeholdersIn]
  | cons t ts ih =>
    obtain ⟨ht, hts⟩ := List.forall_mem_cons.mp h
    obtain ⟨gap, hgap, hchars, hends⟩ := exists_gap n t ts
    rw [hchars]
    cases hvalue : t.value? with
    | none =>
      have hafter : t.after n = n := by simp [after, hvalue]
      rw [placeholdersIn_append (quiet_text hvalue ht n), placeholdersIn_append hgap, ih hts,
        hafter, bindings_cons hvalue]
    | some v =>
      obtain rfl : t = .bound v := by
        cases t with
        | bound w => rw [Option.some.inj hvalue]
        | _ => cases hvalue
      rw [placeholdersIn_bound n v (hends (by simp [hvalue])), placeholdersIn_append hgap, ih hts,
        bindings_bound, List.length_cons, List.range'_succ]
      rfl

/-! ### Layouts without their values -/

/-- A token without the value that it binds. -/
def blank : Token → Token
  | .bound _ => .bound .null
  | t => t

@[simp] theorem text_blank (n : Nat) (t : Token) : t.blank.text n = t.text n := by
  cases t <;> rfl

@[simp] theorem isSome_value?_blank (t : Token) : t.blank.value?.isSome = t.value?.isSome := by
  cases t <;> rfl

@[simp] theorem abuts_blank (t u : Token) : t.blank.abuts u.blank = t.abuts u := by
  cases t <;> cases u <;> rfl

theorem pieces_blank (n : Nat) (ts : List Token) : pieces n (ts.map blank) = pieces n ts := by
  induction ts generalizing n with
  | nil => rfl
  | cons t ts ih =>
    cases ts with
    | nil => simp [pieces, text_blank]
    | cons u ts =>
      have hrest := ih (if t.value?.isSome then n + 1 else n)
      rw [List.map_cons] at hrest
      rw [List.map_cons, List.map_cons, pieces, pieces, text_blank, abuts_blank,
        isSome_value?_blank, hrest]

/-- **Bound values leave no trace in a layout.** -/
theorem layout_blank (ts : List Token) : layout (ts.map blank) = layout ts := by
  rw [layout, pieces_blank, layout]

theorem length_bindings_blank (ts : List Token) :
    (bindings (ts.map blank)).length = (bindings ts).length := by
  induction ts with
  | nil => rfl
  | cons t ts ih =>
    cases t with
    | bound v => simpa [blank] using ih
    | _ => exact ih

end Token

namespace Predicate

open Token (bindings blank)

/-! ### Bindings in the text of a predicate -/

/-- All bindings that tokens name fulfil `Q`. -/
def NameOnly (Q : Binding → Prop) (ts : List Token) : Prop :=
  ∀ t ∈ ts, ∀ b, t.binding? = some b → Q b

theorem compositional_nameOnly (Q : Binding → Prop) : Compositional Q (NameOnly Q) where
  append ht hu := List.forall_mem_append.mpr ⟨ht, hu⟩
  plain h t ht := (h t ht).2
  lower h := List.forall_mem_cons.mpr ⟨by simp [Token.binding?], h⟩

/-! ### Predicates without their values -/

mutual

/-- A predicate without its values. -/
def shape : Predicate → Predicate
  | .compare field c _ => .compare field c .null
  | .like field _ escaped => .like field "" escaped
  | .member field negated values => .member field negated (values.map fun _ => .null)
  | .all ps => .all (shapeAll ps)
  | .any ps => .any (shapeAll ps)
  | .subquery field operation table filter => .subquery field operation table filter.shape
  | p => p

def shapeAll : List Predicate → List Predicate
  | [] => []
  | p :: ps => p.shape :: shapeAll ps

end

mutual

theorem openings_shape : (p : Predicate) → p.shape.openings = p.openings
  | .everything | .nothing | .compare .. | .like .. | .member .. | .isNull _ => rfl
  | .all ps => openingsAll_shapeAll ps
  | .any ps => openingsAll_shapeAll ps
  | .subquery field operation table filter => by rw [shape, openings, openings, openings_shape]

theorem openingsAll_shapeAll :
    (ps : List Predicate) → openingsAll (shapeAll ps) = openingsAll ps
  | [] => rfl
  | p :: ps => by
    rw [shapeAll, openingsAll, openingsAll, openings_shape, openingsAll_shapeAll]

end

@[simp] theorem map_bracketed (ts : List Token) :
    (bracketed ts).map blank = bracketed (ts.map blank) := by
  simp [bracketed, blank]

theorem map_separated (separator : Token) (parts : List (List Token)) :
    (separated separator parts).map blank =
      separated separator.blank (parts.map (List.map blank)) := by
  induction parts with
  | nil => rfl
  | cons part parts ih =>
    cases parts with
    | nil => simp [separated]
    | cons next parts =>
      simp only [separated, List.map_cons, List.intercalate_cons_cons, List.map_append] at ih ⊢
      rw [ih]
      simp

theorem map_junctionTokens (glue : Glue) (parts : List (List Token)) :
    (junctionTokens glue parts).map blank = junctionTokens glue (parts.map (List.map blank)) := by
  match parts with
  | [] => cases glue <;> rfl
  | [part] => rfl
  | part :: next :: parts =>
    have hparts : ((part :: next :: parts).map bracketed).map (List.map blank) =
        ((part :: next :: parts).map (List.map blank)).map bracketed := by
      simp
    rw [junctionTokens_cons_cons, map_separated, hparts]
    rfl

mutual

/-- The tokens of a predicate without its values, but for the values. -/
theorem blank_tokens (b : Binding) (next : Nat) :
    (p : Predicate) → (p.shape.tokens b next).map blank = (p.tokens b next).map blank
  | .everything | .nothing | .compare .. | .isNull _ => rfl
  | .like _ _ _ => rfl
  | .member field negated values => by
    by_cases hnone : values = []
    · subst hnone
      rfl
    · have hsome : values.map (fun _ => Value.null) ≠ [] := by simpa using hnone
      have hitems :
          (separated .comma ((values.map fun _ => Value.null).map fun v => [.bound v])).map blank =
            (separated .comma (values.map fun v => [.bound v])).map blank := by
        rw [map_separated, map_separated, List.map_map, List.map_map, List.map_map]
        rfl
      rw [shape, tokens, tokens, if_neg hnone, if_neg hsome, List.map_append, List.map_append,
        map_bracketed, map_bracketed, hitems]
  | .all ps => by
    rw [shape, tokens, tokens, map_junctionTokens, map_junctionTokens, blank_tokensAll]
  | .any ps => by
    rw [shape, tokens, tokens, map_junctionTokens, map_junctionTokens, blank_tokensAll]
  | .subquery field operation table filter => by
    have hfilter := blank_tokens (.numbered table next) (next + 1) filter
    cases operation with
    | isNull => rfl
    | member _ | compare _ => simp [shape, tokens, hfilter]

theorem blank_tokensAll (b : Binding) (next : Nat) :
    (ps : List Predicate) →
      (tokensAll b next (shapeAll ps)).map (List.map blank) =
        (tokensAll b next ps).map (List.map blank)
  | [] => rfl
  | p :: ps => by
    rw [shapeAll, tokensAll, tokensAll, List.map_cons, List.map_cons, openings_shape,
      blank_tokens, blank_tokensAll]

end

/-- Predicates that differ in nothing but their values are the same text. -/
theorem layout_of_shape {p q : Predicate} (h : q.shape = p.shape) (b : Binding) :
    (q.render b).sql = (p.render b).sql ∧ q.values.length = p.values.length := by
  have hblank : (q.tokens b 1).map blank = (p.tokens b 1).map blank := by
    rw [← blank_tokens, h, blank_tokens]
  constructor
  · show Token.layout (q.tokens b 1) = Token.layout (p.tokens b 1)
    rw [← Token.layout_blank, hblank, Token.layout_blank]
  · rw [← bindings_tokens b 1 q, ← bindings_tokens b 1 p, ← Token.length_bindings_blank, hblank,
      Token.length_bindings_blank]

/-- **Placeholders stand for the bound values.** A rendered predicate has its values beside its
text, from left to right, and the text has their placeholders in order, under any identifier as the
alias of its row. Other values, as many in each place, are other values beside the same text. -/
theorem render_binds_in_order (b : Binding) (p : Predicate) :
    (p.render b).params = p.values ∧
      (Quiet b.qualifier → placeholders (p.render b).sql =
        (List.range' 1 (p.render b).params.length).map Fragment.placeholder) ∧
      ∀ q : Predicate, q.shape = p.shape → (q.render b).sql = (p.render b).sql ∧
        (q.render b).params = q.values ∧ q.values.length = p.values.length := by
  have hparams : ∀ q : Predicate, (q.render b).params = q.values := bindings_tokens b 1
  refine ⟨hparams p, ?_, ?_⟩
  · intro hb
    have hnumbered (table : String) (n : Nat) : Quiet (Binding.numbered table n).qualifier :=
      quiet_name (Lexeme.isName_numbered table n)
    have hquiet : NameOnly (fun b => Quiet b.qualifier) (p.tokens b 1) :=
      (compositional_nameOnly _).predicate hnumbered hb 1 p
    exact Token.placeholdersIn_chars hquiet 1
  · intro q hq
    obtain ⟨htext, hlength⟩ := layout_of_shape hq b
    exact ⟨htext, hparams q, hlength⟩

/-- Question marks and quotes in an alias, in names and in values are no placeholders. -/
theorem render_binds_in_order_beside_marks :
    let b : Binding := ⟨"rows", "\"row ?9\""⟩
    let p (n : Int) (pattern : String) (v : Value) : Predicate := .all
      [.compare "x\" = ?3" .less (.integer n), .subquery "m" .isNull "u" (.like "k" pattern true),
        .subquery "n" (.member true) "u ?8" (.like "s" pattern false),
        .member "y" false [.string pattern, v]]
    Quiet b.qualifier ∧ (p 0 "" .null).shape = (p 5 "?7" (.boolean true)).shape ∧
      placeholders ((p 5 "?7" (.boolean true)).render b).sql = ["?1", "?2", "?3", "?4"] ∧
      ((p 5 "?7" (.boolean true)).render b).params =
        [.integer 5, .string "?7", .string "?7", .boolean true] ∧
      ((p 0 "" .null).render b).sql = ((p 5 "?7" (.boolean true)).render b).sql ∧
      ((p 0 "" .null).render b).params = [.integer 0, .string "", .string "", .null] := by
  intro b p
  have hquiet : Quiet b.qualifier := by decide
  have hshape : (p 0 "" .null).shape = (p 5 "?7" (.boolean true)).shape := rfl
  obtain ⟨hparams, hmarks, hvalues⟩ := render_binds_in_order b (p 5 "?7" (.boolean true))
  obtain ⟨htext, hothers, -⟩ := hvalues (p 0 "" .null) hshape
  refine ⟨hquiet, hshape, ?_, hparams, htext, hothers⟩
  rw [hmarks hquiet, hparams]
  decide

end Predicate

end FilterQuery.Sql
