import FilterQuery.Proofs.Pattern.Language
import FilterQuery.Proofs.Text.Case

/-!
# Patterns as regular expressions

A pattern is handed on as the text of a regular expression. Here such texts are read, and the
expressions get a meaning, by the rules that engines share:

* a backslash takes the meaning from a sign, a dot stands for any one character, a star repeats what
  stands before it, `^` and `$` hold at the ends of the text, and other characters that are no
  operators stand for themselves;
* an expression is found in a text if it matches some part of it.

What engines do not share is a matter of their `Mode`: whether case counts, whether a dot stands for
a line break, and whether a line break at the very end counts as the end.

The expression of a pattern is found exactly in the texts that can be cut into the pieces of the
pattern, with gaps of what a dot stands for (`finds_regex_iff`). The anchors do not give way to
anything in the pattern, and no character of it is an operator.
-/

namespace FilterQuery.Regex

/-! ### Syntax -/

/-- What is compared with one character. -/
inductive Symbol where
  | literal (c : Char)
  | dot
deriving DecidableEq, Repr

inductive Item where
  | start
  | stop
  | one (s : Symbol)
  | many (s : Symbol)
deriving DecidableEq, Repr

/-- The characters that stand for themselves only after a backslash. -/
def operators : List Char :=
  ['\\', '.', '+', '*', '?', '(', ')', '|', '[', ']', '\x7b', '\x7d', '^', '$']

/-- Whether a backslash may stand before a character to take its meaning from it. Before a letter,
a digit or an angle bracket it may give one instead. -/
def isEscapable (c : Char) : Bool :=
  c.toNat < 0x80 && !c.isAlphanum && c != '<' && c != '>'

/-- Reads what is behind a backslash. -/
def takeEscaped? : List Char → Option (Symbol × List Char)
  | [] => none
  | c :: cs => if isEscapable c then some (.literal c, cs) else none

/-- Reads a symbol off the front. -/
def takeSymbol? : List Char → Option (Symbol × List Char)
  | [] => none
  | c :: cs =>
    if c = '.' then some (.dot, cs)
    else if c = '\\' then takeEscaped? cs
    else if c ∈ operators then none
    else some (.literal c, cs)

/-- Reads a star off the front, if there is one, behind a symbol. -/
def takeStar (s : Symbol) : List Char → Item × List Char
  | [] => (.one s, [])
  | c :: cs => if c = '*' then (.many s, cs) else (.one s, c :: cs)

/-- Reads an item off the front. -/
def takeItem? : List Char → Option (Item × List Char)
  | [] => none
  | c :: cs =>
    if c = '^' then some (.start, cs)
    else if c = '$' then some (.stop, cs)
    else (takeSymbol? (c :: cs)).map fun read => takeStar read.1 read.2

theorem length_takeStar_le (s : Symbol) (cs : List Char) :
    (takeStar s cs).2.length ≤ cs.length := by
  cases cs with
  | nil => exact Nat.le_refl _
  | cons c cs =>
    rw [takeStar]
    split <;> simp

theorem length_lt_of_takeEscaped? {cs rest : List Char} {s : Symbol}
    (h : takeEscaped? cs = some (s, rest)) : rest.length < cs.length := by
  cases cs with
  | nil => cases h
  | cons c cs =>
    rw [takeEscaped?] at h
    split at h
    · cases h
      simp
    · cases h

theorem length_lt_of_takeSymbol? {cs rest : List Char} {s : Symbol}
    (h : takeSymbol? cs = some (s, rest)) : rest.length < cs.length := by
  cases cs with
  | nil => cases h
  | cons c cs =>
    rw [takeSymbol?] at h
    split at h
    · cases h
      simp
    · split at h
      · exact Nat.lt_succ_of_lt (length_lt_of_takeEscaped? h)
      · split at h
        · cases h
        · cases h
          simp

theorem length_lt_of_takeItem? {cs rest : List Char} {item : Item}
    (h : takeItem? cs = some (item, rest)) : rest.length < cs.length := by
  cases cs with
  | nil => cases h
  | cons c cs =>
    rw [takeItem?] at h
    split at h
    · cases h
      simp
    · split at h
      · cases h
        simp
      · obtain ⟨⟨s, tail⟩, hsymbol, hstar⟩ := Option.map_eq_some_iff.mp h
        have hle : rest.length ≤ tail.length := by
          simpa [hstar] using length_takeStar_le s tail
        exact Nat.lt_of_le_of_lt hle (length_lt_of_takeSymbol? hsymbol)

/-- Reads the text of a regular expression. Groups, alternatives and classes are not read. -/
def read? (cs : List Char) : Option (List Item) :=
  if cs = [] then some []
  else
    match _h : takeItem? cs with
    | none => none
    | some (item, rest) => (read? rest).map (item :: ·)
termination_by cs.length
decreasing_by exact length_lt_of_takeItem? _h

theorem read?_of_takeItem? {cs rest : List Char} {item : Item}
    (h : takeItem? cs = some (item, rest)) : read? cs = (read? rest).map (item :: ·) := by
  have hne : cs ≠ [] := by
    rintro rfl
    cases h
  rw [read?, if_neg hne]
  split
  · next hnone => cases hnone.symm.trans h
  · next hsome =>
    cases hsome.symm.trans h
    rfl

/-! ### Meaning -/

/-- What engines leave to their settings. -/
structure Mode where
  /-- Letters of either case are the same. -/
  anyCase : Bool := false
  /-- A dot stands for a line break too. -/
  dotAll : Bool := false
  /-- `$` also holds before a line break that ends the text. -/
  looseEnd : Bool := false
deriving DecidableEq, Repr

/-- The character is one that the symbol stands for. -/
def Symbol.Admits (m : Mode) : Symbol → Char → Prop
  | .literal c, d => if m.anyCase then Text.SameLetter c d else c = d
  | .dot, d => m.dotAll ∨ d ≠ '\n'

/-- `$` holds before the rest of a text. -/
def Mode.AtEnd (m : Mode) (rest : List Char) : Prop :=
  rest = [] ∨ (m.looseEnd ∧ rest = ['\n'])

/-- The items match in order from a place in a text, between what is before it and the rest. -/
def Matches (m : Mode) : List Item → (before rest : List Char) → Prop
  | [], _, _ => True
  | .start :: items, before, rest => before = [] ∧ Matches m items before rest
  | .stop :: items, before, rest => m.AtEnd rest ∧ Matches m items before rest
  | .one s :: items, before, rest =>
    ∃ c tail, rest = c :: tail ∧ s.Admits m c ∧ Matches m items (before ++ [c]) tail
  | .many s :: items, before, rest =>
    ∃ run tail, rest = run ++ tail ∧ (∀ c ∈ run, s.Admits m c) ∧
      Matches m items (before ++ run) tail

/-- The text of a regular expression can be read, and the expression matches somewhere. -/
def Finds (m : Mode) (regex text : List Char) : Prop :=
  ∃ items, read? regex = some items ∧
    ∃ before rest, text = before ++ rest ∧ Matches m items before rest

/-! ### Reading the expression of a pattern -/

open Pattern (Cut metacharacters literalRegex regex pieces pieces_ne_nil)

/-- No star is at the front, so what stands before it stands for one character. -/
def NoStar (cs : List Char) : Prop :=
  ∀ c ∈ cs.head?, c ≠ '*'

theorem takeStar_of_noStar (s : Symbol) {cs : List Char} (h : NoStar cs) :
    takeStar s cs = (.one s, cs) := by
  cases cs with
  | nil => rfl
  | cons c cs => exact if_neg (h c rfl)

theorem takeItem?_literal (c : Char) {rest : List Char} (hrest : NoStar rest) :
    takeItem? (literalRegex [c] ++ rest) = some (.one (.literal c), rest) := by
  by_cases hmeta : c ∈ metacharacters
  · have hall : metacharacters.all isEscapable = true := by decide
    have hescapable : isEscapable c = true := List.all_eq_true.mp hall c hmeta
    have htext : literalRegex [c] = ['\\', c] := by simp [literalRegex, hmeta]
    rw [htext]
    simp [takeItem?, takeSymbol?, takeEscaped?, hescapable, takeStar_of_noStar _ hrest]
  · -- an operator would be written with a backslash
    have hliteral : ∀ d ∈ operators, c ≠ d := by
      rintro d hd rfl
      have hall : operators.all metacharacters.contains = true := by decide
      exact hmeta (List.contains_iff_mem.mp (List.all_eq_true.mp hall c hd))
    have htext : literalRegex [c] = [c] := by simp [literalRegex, hmeta]
    have hsymbol : takeSymbol? (c :: rest) = some (.literal c, rest) := by
      rw [takeSymbol?, if_neg (hliteral '.' (by decide)), if_neg (hliteral '\\' (by decide)),
        if_neg fun hc => hliteral c hc rfl]
    rw [htext, List.singleton_append, takeItem?, if_neg (hliteral '^' (by decide)),
      if_neg (hliteral '$' (by decide)), hsymbol]
    simp [takeStar_of_noStar _ hrest]

theorem literalRegex_cons (c : Char) (cs : List Char) :
    literalRegex (c :: cs) = literalRegex [c] ++ literalRegex cs := by
  simp [literalRegex]

theorem noStar_literalRegex (cs : List Char) {rest : List Char} (hrest : NoStar rest) :
    NoStar (literalRegex cs ++ rest) := by
  cases cs with
  | nil => exact hrest
  | cons c cs =>
    rintro d hd rfl
    by_cases hmeta : c ∈ metacharacters
    · simp [literalRegex, hmeta] at hd
    · obtain rfl : c = '*' := by simpa [literalRegex, hmeta] using hd
      exact hmeta (by decide)

def literals (piece : List Char) : List Item :=
  piece.map fun c => .one (.literal c)

/-- The items of the pieces of a pattern. -/
def itemsOf (pieces : List (List Char)) : List Item :=
  [Item.many .dot].intercalate (pieces.map literals)

theorem itemsOf_cons (piece : List Char) {pieces : List (List Char)} (hne : pieces ≠ []) :
    itemsOf (piece :: pieces) = literals piece ++ .many .dot :: itemsOf pieces := by
  rw [itemsOf, List.map_cons, List.intercalate_cons_of_ne_nil (by simpa using hne)]
  simp [itemsOf]

theorem read?_literalRegex (cs : List Char) {rest : List Char} (hrest : NoStar rest) :
    read? (literalRegex cs ++ rest) = (read? rest).map (literals cs ++ ·) := by
  induction cs with
  | nil => exact Option.map_id_apply.symm
  | cons c cs ih =>
    rw [literalRegex_cons, List.append_assoc,
      read?_of_takeItem? (takeItem?_literal c (noStar_literalRegex cs hrest)), ih, Option.map_map]
    rfl

theorem read?_wildcard (rest : List Char) :
    read? ('.' :: '*' :: rest) = (read? rest).map (.many .dot :: ·) :=
  read?_of_takeItem? rfl

theorem noStar_of_head {c : Char} {cs : List Char} (h : c ≠ '*') : NoStar (c :: cs) := by
  rintro _ ⟨⟩
  exact h

theorem read?_pieces {pieces : List (List Char)} (hne : pieces ≠ []) :
    read? (".*".toList.intercalate (pieces.map literalRegex) ++ ['$']) =
      some (itemsOf pieces ++ [.stop]) := by
  have hstop : read? ['$'] = some [.stop] := by
    rw [read?_of_takeItem? (rfl : takeItem? ['$'] = some (.stop, [])), read?]
    rfl
  induction pieces with
  | nil => exact absurd rfl hne
  | cons piece pieces ih =>
    rcases eq_or_ne pieces [] with rfl | hne
    · simp only [List.map_cons, List.map_nil, List.intercalate_singleton, itemsOf]
      rw [read?_literalRegex piece (noStar_of_head (by decide)), hstop]
      rfl
    · have htext : ".*".toList.intercalate ((piece :: pieces).map literalRegex) ++ ['$'] =
          literalRegex piece ++
            '.' :: '*' :: (".*".toList.intercalate (pieces.map literalRegex) ++ ['$']) := by
        rw [List.map_cons, List.intercalate_cons_of_ne_nil (by simpa using hne)]
        simp
      rw [htext, itemsOf_cons piece hne, read?_literalRegex piece (noStar_of_head (by decide)),
        read?_wildcard, ih hne]
      simp

/-- **The expression of a pattern is read as its pieces between the anchors.** -/
theorem read?_regex (pattern : List Char) :
    read? (regex pattern) = some (.start :: (itemsOf (pieces pattern) ++ [.stop])) := by
  rw [regex, read?_of_takeItem? rfl, read?_pieces (pieces_ne_nil pattern)]
  rfl

/-! ### Finding the expression of a pattern -/

variable {m : Mode}

theorem matches_literals {piece before rest : List Char} {items : List Item} :
    Matches m (literals piece ++ items) before rest ↔
      ∃ part tail, rest = part ++ tail ∧
        List.Forall₂ (fun c d => (Symbol.literal c).Admits m d) piece part ∧
        Matches m items (before ++ part) tail := by
  induction piece generalizing before rest with
  | nil => simp [literals]
  | cons c piece ih =>
    show (∃ d tail, rest = d :: tail ∧ (Symbol.literal c).Admits m d ∧
      Matches m (literals piece ++ items) (before ++ [d]) tail) ↔ _
    constructor
    · rintro ⟨d, _, rfl, hd, hrest⟩
      obtain ⟨part, tail, rfl, hpart, htail⟩ := ih.mp hrest
      exact ⟨d :: part, tail, rfl, .cons hd hpart, by simpa using htail⟩
    · rintro ⟨_, tail, rfl, hpart, htail⟩
      cases hpart with
      | @cons _ d _ part hd hpart =>
        exact ⟨d, part ++ tail, rfl, hd, ih.mpr ⟨part, tail, rfl, hpart, by simpa using htail⟩⟩

theorem matches_pieces {pieces : List (List Char)} (hne : pieces ≠ []) {before text : List Char} :
    Matches m (itemsOf pieces ++ [.stop]) before text ↔
      ∃ body tail, text = body ++ tail ∧ m.AtEnd tail ∧
        Cut (fun c d => (Symbol.literal c).Admits m d) (Symbol.dot.Admits m) pieces body := by
  induction pieces generalizing before text with
  | nil => exact absurd rfl hne
  | cons piece pieces ih =>
    rcases eq_or_ne pieces [] with rfl | hne
    · have hitems : itemsOf [piece] = literals piece := List.intercalate_singleton
      rw [hitems, matches_literals]
      simp only [Cut.singleton_iff, Matches, and_true]
      constructor
      · rintro ⟨part, tail, rfl, hpart, htail⟩
        exact ⟨part, tail, rfl, htail, hpart⟩
      · rintro ⟨part, tail, rfl, htail, hpart⟩
        exact ⟨part, tail, rfl, hpart, htail⟩
    · rw [itemsOf_cons piece hne, List.append_assoc, matches_literals]
      simp only [Cut.cons_iff hne]
      constructor
      · rintro ⟨part, _, rfl, hpart, gap, _, rfl, hgap, hrest⟩
        obtain ⟨body, tail, rfl, htail, hbody⟩ := (ih hne).mp hrest
        exact ⟨part ++ gap ++ body, tail, by simp, htail, part, gap, body, rfl, hpart, hgap, hbody⟩
      · rintro ⟨_, tail, rfl, htail, part, gap, body, rfl, hpart, hgap, hbody⟩
        refine ⟨part, gap ++ body ++ tail, by simp, hpart, gap, body ++ tail, by simp, hgap, ?_⟩
        exact (ih hne).mpr ⟨body, tail, rfl, htail, hbody⟩

/-- **A text has the expression of a pattern in it if and only if it can be cut into the pieces**,
up to what may follow the end. -/
theorem finds_regex_iff {pattern text : List Char} :
    Finds m (regex pattern) text ↔
      ∃ body tail, text = body ++ tail ∧ m.AtEnd tail ∧
        Cut (fun c d => (Symbol.literal c).Admits m d) (Symbol.dot.Admits m) (pieces pattern)
          body := by
  have hpieces := @matches_pieces m _ (pieces_ne_nil pattern) [] text
  rw [Finds, read?_regex, ← hpieces]
  constructor
  · rintro ⟨_, ⟨⟩, before, rest, rfl, rfl, h⟩
    exact h
  · exact fun h => ⟨_, rfl, [], text, rfl, rfl, h⟩

theorem finds_regex_iff_of_anyCase (h : m.anyCase = true) {pattern text : List Char} :
    Finds m (regex pattern) text ↔
      ∃ body tail, text = body ++ tail ∧ m.AtEnd tail ∧
        Cut Text.SameLetter (Symbol.dot.Admits m) (pieces pattern) body := by
  have hspells : (fun c d => (Symbol.literal c).Admits m d) = Text.SameLetter := by
    funext c d
    exact if_pos h
  rw [finds_regex_iff, hspells]

end FilterQuery.Regex
