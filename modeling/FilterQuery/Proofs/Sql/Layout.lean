import FilterQuery.Proofs.Sql.Lexeme

/-!
# Laid out tokens are read back

The text of a token, followed by a character that ends it, is read as the lexemes of the token. A
layout puts such a character behind every token (a blank, a bracket or a comma), so that a whole
layout is read as the lexemes of its tokens in order, `lex?_layout`. Three things could spoil this:

* an alias that is a keyword, or no word at all (`IsName`);
* a word that runs into the next one, because nothing stands behind `LOWER` (`Applied`);
* a quote inside a name that ends it (`takeQuoted?_double`: a doubled quote never does).
-/

namespace FilterQuery.Sql

namespace Lexeme

/-! ### Runs of characters -/

/-- No text, or a text whose first character fails `p`. -/
def StartsOff (p : Char → Bool) (cs : List Char) : Prop :=
  ∀ c ∈ cs.head?, p c = false

theorem takeWhile_append {p : Char → Bool} {run rest : List Char} (hrun : ∀ c ∈ run, p c)
    (hrest : StartsOff p rest) : (run ++ rest).takeWhile p = run := by
  rw [List.takeWhile_append_of_pos hrun]
  cases rest with
  | nil => simp
  | cons c rest => simp [hrest c rfl]

theorem dropWhile_append {p : Char → Bool} {run rest : List Char} (hrun : ∀ c ∈ run, p c)
    (hrest : StartsOff p rest) : (run ++ rest).dropWhile p = rest := by
  rw [List.dropWhile_append_of_pos hrun]
  cases rest with
  | nil => simp
  | cons c rest => simp [hrest c rfl]

/-! ### Numbers -/

theorem isDigit_of_mem_toDigits {n : Nat} {c : Char} (hc : c ∈ Nat.toDigits 10 n) :
    c.isDigit = true :=
  Nat.isDigit_of_mem_toDigits (by decide) (by decide) hc

theorem takeNumber?_toDigits (n : Nat) {rest : List Char} (hrest : StartsOff Char.isDigit rest) :
    takeNumber? (Nat.toDigits 10 n ++ rest) = some (n, rest) := by
  have hdigits : ∀ c ∈ Nat.toDigits 10 n, c.isDigit := fun _ => isDigit_of_mem_toDigits
  unfold takeNumber?
  rw [takeWhile_append hdigits hrest, dropWhile_append hdigits hrest]
  split
  · next h => exact absurd h Nat.toDigits_ne_nil
  · rw [Nat.ofDigitChars_ten_toDigits]

theorem take?_toDigits (n : Nat) {rest : List Char} (hrest : StartsOff Char.isDigit rest) :
    take? (Nat.toDigits 10 n ++ rest) = some (.number n, rest) := by
  have hread := takeNumber?_toDigits n hrest
  obtain ⟨c, cs, hd⟩ := List.exists_cons_of_ne_nil (Nat.toDigits_ne_nil (n := n) (b := 10))
  have hc : c.isDigit := isDigit_of_mem_toDigits (n := n) (by simp [hd])
  rw [hd, List.cons_append] at hread ⊢
  rw [take?, if_pos hc, hread]
  rfl

/-! ### Quotes -/

/-- The characters of a text with every quote written twice. -/
def double (quote : Char) (s : List Char) : List Char :=
  s.flatMap fun c => if c = quote then [quote, quote] else [c]

/-- What is written between quotes is read back, whatever it holds: only the closing quote is a
quote that no second one follows. -/
theorem takeQuoted?_double (quote : Char) (s : List Char) {rest : List Char}
    (hrest : StartsOff (· == quote) rest) :
    takeQuoted? quote (double quote s ++ quote :: rest) = some (s, rest) := by
  induction s with
  | nil =>
    cases rest with
    | nil => simp [double, takeQuoted?]
    | cons c rest =>
      have hc : c ≠ quote := by simpa using hrest c rfl
      simp [double, takeQuoted?, hc]
  | cons c s ih =>
    by_cases h : c = quote
    · subst h
      have hcons : double c (c :: s) = c :: c :: double c s := by simp [double]
      rw [hcons, List.cons_append, List.cons_append, takeQuoted?, ih]
      simp
    · have hcons : double quote (c :: s) = c :: double quote s := by simp [double, h]
      -- the reader looks one character ahead: there is one, at least the closing quote
      obtain ⟨d, cs, hd⟩ : ∃ d cs, double quote s ++ quote :: rest = d :: cs :=
        List.exists_cons_of_ne_nil (by simp)
      rw [hd] at ih
      rw [hcons, List.cons_append, hd, takeQuoted?, if_pos h, ih]
      rfl

/-! ### Words -/

theorem not_isDigit_of_isWordStart {c : Char} (h : isWordStart c) : c.isDigit = false := by
  delta isWordStart Char.isAlpha Char.isUpper Char.isLower at h
  simp only [Bool.or_eq_true, Bool.and_eq_true, decide_eq_true_eq, beq_iff_eq,
    UInt32.le_iff_toNat_le, ge_iff_le] at h
  rcases h with h | rfl
  · simp only [Char.isDigit, Bool.and_eq_false_iff, decide_eq_false_iff_not,
      UInt32.le_iff_toNat_le, ge_iff_le]
    change (65 ≤ c.val.toNat ∧ c.val.toNat ≤ 90) ∨ (97 ≤ c.val.toNat ∧ c.val.toNat ≤ 122) at h
    right
    change ¬ c.val.toNat ≤ 57
    omega
  · decide

theorem take?_word {c : Char} {word rest : List Char} (hstart : isWordStart c)
    (hword : ∀ d ∈ c :: word, isWordChar d) (hrest : StartsOff isWordChar rest) :
    take? (c :: word ++ rest) = some (ofWord (c :: word), rest) := by
  have hdigit := not_isDigit_of_isWordStart hstart
  rw [List.cons_append, take?, if_neg (by simp [hdigit]), if_pos hstart, ← List.cons_append,
    takeWhile_append hword hrest, dropWhile_append hword hrest]

theorem ofWord_keyword (k : Keyword) : ofWord k.text.toList = .keyword k := by
  cases k <;> rfl

theorem take?_keyword (k : Keyword) {rest : List Char} (hrest : StartsOff isWordChar rest) :
    take? (k.text.toList ++ rest) = some (.keyword k, rest) := by
  obtain ⟨c, word, hk, hstart, hword⟩ : ∃ c word, k.text.toList = c :: word ∧ isWordStart c ∧
      (c :: word).all isWordChar := by
    -- by evaluation: every keyword is a word
    cases k <;> exact ⟨_, _, rfl, rfl, rfl⟩
  rw [← ofWord_keyword, hk]
  exact take?_word hstart (List.all_eq_true.mp hword) hrest

/-- A text that is read as a plain name: a word, and no keyword. -/
structure IsName (s : String) : Prop where
  start : ∃ c cs, s.toList = c :: cs ∧ isWordStart c
  word : ∀ c ∈ s.toList, isWordChar c
  plain : Keyword.ofWord? s.toList = none

theorem take?_name {s : String} (hs : IsName s) {rest : List Char}
    (hrest : StartsOff isWordChar rest) :
    take? (s.toList ++ rest) = some (.name s, rest) := by
  obtain ⟨c, cs, hc, hstart⟩ := hs.start
  have hword := hs.word
  have hname : ofWord s.toList = .name s := by simp [ofWord, hs.plain]
  rw [← hname]
  rw [hc] at hword ⊢
  exact take?_word hstart hword hrest

/-- Every numbered alias is a name: no keyword begins with a `T`. -/
theorem isName_numbered (table : String) (n : Nat) :
    IsName (Binding.numbered table n).qualifier := by
  have hs : (Binding.numbered table n).qualifier.toList = 't' :: Nat.toDigits 10 n := by
    simp [Binding.numbered]
  constructor
  · exact ⟨'t', _, hs, by decide⟩
  · intro c hc
    rw [hs, List.mem_cons] at hc
    rcases hc with rfl | hc
    · decide
    · simp [isWordChar, Char.isAlphanum, isDigit_of_mem_toDigits hc]
  · have hT : 't'.toUpper = 'T' := by decide
    rw [hs]
    simp [Keyword.ofWord?, Keyword.all, Keyword.text, hT]

/-! ### Operators -/

/-- An operator is read whole: `<` and `>` go on only with `>` and `=`. -/
theorem take?_operator (c : Comparison) {rest : List Char}
    (hrest : StartsOff (fun d => d == '>' || d == '=') rest) :
    take? ((operatorText c).toList ++ rest) = some (.operator c, rest) := by
  cases rest with
  | nil => cases c <;> rfl
  | cons d rest =>
    have hd : d ≠ '>' ∧ d ≠ '=' := by simpa using hrest d rfl
    cases c <;> simp [operatorText, take?, isWordStart, takeSign?, hd.1, hd.2]

/-! ### One lexeme after the other -/

/-- A text is read as these lexemes, with any number of steps beyond its length. -/
def Reads (cs : List Char) (ls : List Lexeme) : Prop :=
  ∀ steps, cs.length < steps → takeAll? steps cs = some ls

theorem reads_nil : Reads [] [] := by
  intro steps hsteps
  cases steps with
  | zero => simp at hsteps
  | succ steps => simp [takeAll?]

theorem Reads.blank {cs : List Char} {ls : List Lexeme} (h : Reads cs ls) :
    Reads (' ' :: cs) ls := by
  intro steps hsteps
  cases steps with
  | zero => simp at hsteps
  | succ steps =>
    have hskip : takeAll? (steps + 1) (' ' :: cs) = takeAll? (steps + 1) cs := by
      simp [takeAll?, isBlank]
    rw [hskip]
    apply h
    simp at hsteps
    omega

theorem not_isBlank_of_take? {c : Char} {cs : List Char} {read : Lexeme × List Char}
    (h : take? (c :: cs) = some read) : isBlank c = false := by
  cases hc : isBlank c with
  | false => rfl
  | true =>
    have hc : ((c = ' ' ∨ c = '\n') ∨ c = '\r') ∨ c = '\t' := by simpa [isBlank] using hc
    -- a blank is no word, no digit and no sign
    rcases hc with ((rfl | rfl) | rfl) | rfl <;> simp [take?, isWordStart, takeSign?] at h

theorem Reads.piece {piece rest : List Char} {l : Lexeme} {ls : List Lexeme} (hne : piece ≠ [])
    (hl : take? (piece ++ rest) = some (l, rest)) (h : Reads rest ls) :
    Reads (piece ++ rest) (l :: ls) := by
  intro steps hsteps
  obtain ⟨c, cs, rfl⟩ := List.exists_cons_of_ne_nil hne
  cases steps with
  | zero => simp at hsteps
  | succ steps =>
    -- the piece takes the one step that is gone, and is a character long at least
    have hrest : takeAll? steps rest = some ls := by
      apply h
      simp at hsteps
      omega
    have hc := not_isBlank_of_take? hl
    rw [List.cons_append] at hl ⊢
    rw [takeAll?, List.dropWhile_cons_of_neg (by simp [hc])]
    simp [hl, hrest]

theorem lex?_eq_some {s : String} {ls : List Lexeme} (h : Reads s.toList ls) :
    lex? s = some ls := by
  apply h
  rw [String.length_toList]
  omega

theorem Reads.sign {c : Char} {l : Lexeme} {rest : List Char} {ls : List Lexeme}
    (hl : ∀ rest, take? (c :: rest) = some (l, rest)) (h : Reads rest ls) :
    Reads (c :: rest) (l :: ls) :=
  Reads.piece (List.cons_ne_nil c []) (hl rest) h

theorem Reads.opening {rest : List Char} {ls : List Lexeme} (h : Reads rest ls) :
    Reads ('(' :: rest) (.opening :: ls) :=
  h.sign fun _ => rfl

theorem Reads.name {s : String} (hs : IsName s) {rest : List Char} {ls : List Lexeme}
    (hrest : StartsOff isWordChar rest) (h : Reads rest ls) :
    Reads (s.toList ++ rest) (.name s :: ls) := by
  obtain ⟨c, cs, hc, -⟩ := hs.start
  exact h.piece (by simp [hc]) (take?_name hs hrest)

theorem Reads.quoteName (s : String) {rest : List Char} {ls : List Lexeme}
    (hrest : StartsOff (· == '"') rest) (h : Reads rest ls) :
    Reads ((quoteName s).toList ++ rest) (.quoted s :: ls) := by
  have hs : (Sql.quoteName s).toList ++ rest = '"' :: (double '"' s.toList ++ '"' :: rest) := by
    simp [Sql.quoteName, double]
  apply h.piece (by simp [Sql.quoteName])
  rw [hs]
  simp [take?, isWordStart, takeSign?, takeQuoted?_double _ _ hrest]

end Lexeme

/-! ### Tokens -/

namespace Token

/-- The lexemes of a token; a placeholder gets the number `n`. -/
def lexemes (n : Nat) : Token → List Lexeme
  | .keyword k => [.keyword k]
  | .operator c => [.operator c]
  | .number m => [.number m]
  | .column b field => [.name b.qualifier, .dot, .quoted field]
  | .star b => [.name b.qualifier, .dot, .star]
  | .table b => [.quoted b.table, .name b.qualifier]
  | .bound _ => [.placeholder n]
  | .escapeMark => [.text (String.singleton likeEscape)]
  | .opening => [.opening]
  | .closing => [.closing]
  | .comma => [.comma]

def after (n : Nat) (t : Token) : Nat :=
  if t.value?.isSome then n + 1 else n

/-- The lexemes of tokens; the next placeholder gets the number `n`. -/
def lexemesFrom (n : Nat) : List Token → List Lexeme
  | [] => []
  | t :: ts => t.lexemes n ++ lexemesFrom (t.after n) ts

/-- The alias in a token, if there is one, is a name. -/
def Aliased : Token → Prop
  | .column b _ | .star b | .table b => Lexeme.IsName b.qualifier
  | _ => True

/-- Behind `LOWER` stands an opening bracket. -/
def Applied : List Token → Prop
  | [] => True
  | t :: ts => (t = .keyword .lower → ts.head? = some .opening) ∧ Applied ts

/-- A text that ends the lexeme before it: no text, a blank, a bracket or a comma. -/
def Ends (rest : List Char) : Prop :=
  ∀ c ∈ rest.head?, c ∈ [' ', '(', ')', ',']

theorem Ends.startsOff {rest : List Char} (h : Ends rest) {p : Char → Bool}
    (hp : [' ', '(', ')', ','].any p = false) : Lexeme.StartsOff p rest := by
  intro c hc
  have hoff : ¬ p c = true := List.any_eq_false.mp hp c (h c hc)
  simpa using hoff

open Lexeme in
/-- A token that something ends is read as its lexemes. -/
theorem reads_text {t : Token} (ht : t.Aliased) (n : Nat) {rest : List Char} {ls : List Lexeme}
    (hrest : Ends rest) (h : Reads rest ls) :
    Reads ((t.text n).toList ++ rest) (t.lexemes n ++ ls) := by
  have hdigit : StartsOff Char.isDigit rest := hrest.startsOff rfl
  have hword : StartsOff isWordChar rest := hrest.startsOff rfl
  have hquote : StartsOff (· == '"') rest := hrest.startsOff rfl
  cases t with
  | keyword k =>
    show Reads (k.text.toList ++ rest) _
    exact h.piece (by cases k <;> decide) (take?_keyword k hword)
  | operator c =>
    have hsign : StartsOff (fun c => c == '>' || c == '=') rest := hrest.startsOff rfl
    show Reads ((operatorText c).toList ++ rest) _
    exact h.piece (by cases c <;> decide) (take?_operator c hsign)
  | number m =>
    have htext : ((Token.number m).text n).toList = Nat.toDigits 10 m := by simp [text]
    rw [htext]
    exact h.piece Nat.toDigits_ne_nil (take?_toDigits m hdigit)
  | column b field =>
    have htext : ((Token.column b field).text n).toList ++ rest =
        b.qualifier.toList ++ '.' :: ((quoteName field).toList ++ rest) := by
      simp [text, Binding.column]
    rw [htext]
    apply Reads.name ht (by simp [StartsOff, isWordChar])
    apply Reads.sign fun _ => rfl
    exact Reads.quoteName field hquote h
  | star b =>
    have htext : ((Token.star b).text n).toList ++ rest =
        b.qualifier.toList ++ '.' :: '*' :: rest := by
      simp [text]
    rw [htext]
    apply Reads.name ht (by simp [StartsOff, isWordChar])
    apply Reads.sign fun _ => rfl
    exact h.sign fun _ => rfl
  | table b =>
    have htext : ((Token.table b).text n).toList ++ rest =
        (quoteName b.table).toList ++ ' ' :: (b.qualifier.toList ++ rest) := by
      simp [text, Binding.fromItem]
    rw [htext]
    apply Reads.quoteName b.table (by simp [StartsOff])
    exact (h.name ht hword).blank
  | bound v =>
    have htext : ((Token.bound v).text n).toList = '?' :: Nat.toDigits 10 n := by
      simp [text, Fragment.placeholder]
    rw [htext]
    apply h.piece (by simp)
    simp [take?, isWordStart, takeSign?, takeNumber?_toDigits n hdigit]
  | escapeMark =>
    have htext : (Token.escapeMark.text n).toList ++ rest =
        '\'' :: (double '\'' [likeEscape] ++ '\'' :: rest) := by
      simp [text, double, likeEscape]
    have hsingle : StartsOff (· == '\'') rest := hrest.startsOff rfl
    apply h.piece (by simp [text])
    rw [htext]
    simp [take?, isWordStart, takeSign?, takeQuoted?_double _ _ hsingle]
  | opening =>
    have htext : (Token.opening.text n).toList = ['('] := by simp [text]
    rw [htext]
    exact h.opening
  | closing =>
    have htext : (Token.closing.text n).toList = [')'] := by simp [text]
    rw [htext]
    exact h.sign fun _ => rfl
  | comma =>
    have htext : (Token.comma.text n).toList = [','] := by simp [text]
    rw [htext]
    exact h.sign fun _ => rfl

/-! ### Layouts -/

/-- The characters of a layout; the next placeholder gets the number `n`. -/
def chars (n : Nat) (ts : List Token) : List Char :=
  (String.join (pieces n ts)).toList

@[simp] theorem chars_nil (n : Nat) : chars n [] = [] := by
  simp [chars, pieces]

@[simp] theorem chars_singleton (n : Nat) (t : Token) : chars n [t] = (t.text n).toList := by
  simp [chars, pieces]

theorem chars_cons_cons (n : Nat) (t u : Token) (ts : List Token) :
    chars n (t :: u :: ts) = (t.text n).toList ++
      ((if t.abuts u then [] else [' ']) ++ chars (t.after n) (u :: ts)) := by
  cases h : t.abuts u <;> simp [chars, pieces, after, h]

theorem chars_cons (n : Nat) (t : Token) (ts : List Token) :
    ∃ rest, chars n (t :: ts) = (t.text n).toList ++ rest := by
  cases ts with
  | nil => exact ⟨[], by simp⟩
  | cons u ts => exact ⟨_, chars_cons_cons n t u ts⟩

theorem ends_chars (n : Nat) {t : Token} (ht : t = .opening ∨ t = .closing ∨ t = .comma)
    (ts : List Token) : Ends (chars n (t :: ts)) := by
  obtain ⟨rest, hrest⟩ := chars_cons n t ts
  rw [hrest]
  rcases ht with rfl | rfl | rfl <;> simp [text, Ends]

open Lexeme in
/-- A layout is read as the lexemes of its tokens, if every alias is a name and every `LOWER` has
its bracket. -/
theorem reads_chars (n : Nat) (ts : List Token) (haliased : ∀ t ∈ ts, t.Aliased)
    (happlied : Applied ts) : Reads (chars n ts) (lexemesFrom n ts) := by
  induction ts generalizing n with
  | nil => simpa [lexemesFrom] using reads_nil
  | cons t ts ih =>
    have ht := haliased t (by simp)
    have hread := ih (t.after n) (fun u hu => haliased u (by simp [hu])) happlied.2
    rw [lexemesFrom]
    cases ts with
    | nil =>
      have hends : Ends [] := by simp [Ends]
      rw [chars_singleton]
      simpa using reads_text ht n hends hread
    | cons u ts =>
      rw [chars_cons_cons]
      by_cases habuts : t.abuts u = true
      · rw [if_pos habuts, List.nil_append]
        by_cases hopening : t = .opening
        · subst hopening
          have htext : (Token.opening.text n).toList = ['('] := by simp [text]
          rw [htext]
          exact hread.opening
        · -- the next token is a bracket or a comma
          have hu : u = .opening ∨ u = .closing ∨ u = .comma := by
            by_cases hlower : t = .keyword .lower
            · have := happlied.1 hlower
              simp at this
              exact Or.inl this
            · simpa [abuts, hopening, hlower, or_assoc] using Or.inr habuts
          exact reads_text ht n (ends_chars _ hu ts) hread
      -- else a blank ends the token and is skipped before the next
      · rw [if_neg habuts]
        exact reads_text ht n (by simp [Ends]) hread.blank

/-- **Layouts are read back.** -/
theorem lex?_layout {ts : List Token} (haliased : ∀ t ∈ ts, t.Aliased) (happlied : Applied ts) :
    Lexeme.lex? (layout ts) = some (lexemesFrom 1 ts) :=
  Lexeme.lex?_eq_some (reads_chars 1 ts haliased happlied)

end Token

end FilterQuery.Sql
