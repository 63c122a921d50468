import FilterQuery.Proofs.Pattern.Language
import FilterQuery.Proofs.Sql.Evaluation

/-!
# `LIKE` without an escape character and with one

Without an escape character every text is a pattern of `LIKE`, and its parts are its characters one
by one. So `LIKE` cuts a text into the same pieces as the patterns of requests do, but reads the
pieces differently: an underscore in them stands for any one character (`likeFits_iff_cut`).

With an escape character not every text is a pattern, and systems differ in what they take behind
it: wildcards and the escape character itself (`likeParts?`), or anything (`LikeReads`). Escaped
texts are read alike by both, character by character (`likeParts?_escapeLike`), and between two
wildcards they fit the texts that they occur in (`likeFits_between_iff`).
-/

namespace FilterQuery.Sql

open Pattern (Cut Anything pieces wildcard)

/-- What a character of a pattern without an escape character stands for. -/
def LikePart.ofChar (c : Char) : LikePart :=
  if c = '%' then .anyRun else if c = '_' then .anyOne else .literal c

theorem likeParts?_cons {escape : Option Char} {c : Char} (hc : escape ≠ some c) (cs : List Char) :
    likeParts? escape (c :: cs) = (likeParts? escape cs).map (LikePart.ofChar c :: ·) := by
  cases cs with
  | nil =>
    simp only [likeParts?, LikePart.ofChar]
    split_ifs <;> simp_all
  | cons d cs =>
    rw [likeParts?, if_neg hc]
    simp only [LikePart.ofChar]
    split_ifs <;> rfl

theorem likeParts?_none (cs : List Char) :
    likeParts? none cs = some (cs.map LikePart.ofChar) := by
  induction cs with
  | nil => rfl
  | cons c cs ih => rw [likeParts?_cons (by simp), ih, List.map_cons, Option.map_some]

theorem anyEnd_iff {test : List Char → Bool} {text : List Char} :
    anyEnd test text = true ↔ ∃ run rest, text = run ++ rest ∧ test rest = true := by
  induction text with
  | nil => simp [anyEnd]
  | cons c cs ih =>
    rw [anyEnd, Bool.or_eq_true, ih]
    constructor
    · rintro (h | ⟨run, rest, rfl, h⟩)
      · exact ⟨[], c :: cs, rfl, h⟩
      · exact ⟨c :: run, rest, rfl, h⟩
    · rintro ⟨run, rest, htext, h⟩
      cases run with
      | nil =>
        obtain rfl : c :: cs = rest := htext
        exact .inl h
      | cons d run =>
        obtain ⟨rfl, rfl⟩ := List.cons.inj htext
        exact .inr ⟨run, rest, rfl, h⟩

/-- How `LIKE` reads a character of a piece. -/
def LikeSpells (c d : Char) : Prop :=
  c = '_' ∨ c = d

/-- **`LIKE` cuts a text into the pieces between the wildcards**, with any characters for the
underscores. -/
theorem likeFits_iff_cut {pattern text : List Char} :
    likeFits (pattern.map LikePart.ofChar) text = true ↔
      Cut LikeSpells Anything (pieces pattern) text := by
  induction pattern generalizing text with
  | nil =>
    have hpieces : pieces [] = [[]] := rfl
    rw [hpieces, Cut.singleton_iff, List.forall₂_nil_left_iff]
    exact List.isEmpty_iff
  | cons c pattern ih =>
    rw [List.map_cons]
    by_cases hwildcard : c = '%'
    · subst hwildcard
      show anyEnd (likeFits (pattern.map LikePart.ofChar)) text = true ↔
        Cut _ _ (pieces (wildcard :: pattern)) text
      rw [anyEnd_iff, Pattern.pieces_wildcard, Cut.cons_iff (Pattern.pieces_ne_nil pattern)]
      simp only [ih, List.forall₂_nil_left_iff]
      constructor
      · rintro ⟨run, rest, rfl, h⟩
        exact ⟨[], run, rest, rfl, rfl, by simp [Anything], h⟩
      · rintro ⟨_, run, rest, rfl, rfl, -, h⟩
        exact ⟨run, rest, rfl, h⟩
    · rw [Pattern.pieces_cons hwildcard,
        Cut.modifyHead_cons_iff (Pattern.pieces_ne_nil pattern)]
      simp only [← ih]
      by_cases hunderscore : c = '_'
      · have hpart : LikePart.ofChar c = .anyOne := by simp [LikePart.ofChar, hunderscore]
        rw [hpart]
        cases text <;> simp [likeFits, LikeSpells, hunderscore]
      · have hpart : LikePart.ofChar c = .literal c := by
          simp [LikePart.ofChar, hwildcard, hunderscore]
        rw [hpart]
        cases text <;> simp [likeFits, LikeSpells, hunderscore]

/-- The truth value of a pattern without an escape character on a text. -/
theorem likeLower_string_eq_true {text pattern : String} :
    (Value.string text).likeLower pattern false = .true ↔
      Cut LikeSpells Anything (pieces pattern.toList) (Text.lowercase text.toList) := by
  rw [← likeFits_iff_cut, Value.likeLower, if_neg (by decide), likeParts?_none]
  exact Truth.ofBool_eq_true

/-! ### Escaped texts -/

/-- The reading of a pattern in which the escape character makes any character literal. -/
inductive LikeReads (escape : Char) : List Char → List LikePart → Prop
  | nil : LikeReads escape [] []
  | escaped {c : Char} {cs : List Char} {parts : List LikePart} :
    LikeReads escape cs parts → LikeReads escape (escape :: c :: cs) (.literal c :: parts)
  | plain {c : Char} {cs : List Char} {parts : List LikePart} :
    c ≠ escape → LikeReads escape cs parts →
      LikeReads escape (c :: cs) (LikePart.ofChar c :: parts)

theorem LikeReads.unique {escape : Char} {cs : List Char} {parts parts' : List LikePart}
    (h : LikeReads escape cs parts) (h' : LikeReads escape cs parts') : parts = parts' := by
  induction h generalizing parts' with
  | nil =>
    cases h'
    rfl
  | escaped _ ih =>
    cases h' with
    | escaped h' => rw [ih h']
    | plain hne => exact absurd rfl hne
  | plain hne _ ih =>
    cases h' with
    | escaped => exact absurd rfl hne
    | plain _ h' => rw [ih h']

/-- A pattern in the narrow reading is read alike in both. -/
theorem likeReads_of_likeParts? {escape : Char} : {cs : List Char} → {parts : List LikePart} →
    likeParts? (some escape) cs = some parts → LikeReads escape cs parts
  | [], _, h => Option.some.inj h ▸ .nil
  | c :: cs, _, h => by
    by_cases hc : c = escape
    · subst hc
      match cs with
      | [] => simp [likeParts?] at h
      | d :: cs =>
        rw [likeParts?, if_pos rfl] at h
        split at h
        · obtain ⟨parts, hparts, rfl⟩ := Option.map_eq_some_iff.mp h
          exact .escaped (likeReads_of_likeParts? hparts)
        · cases h
    · rw [likeParts?_cons (by simpa [eq_comm] using hc)] at h
      obtain ⟨parts, hparts, rfl⟩ := Option.map_eq_some_iff.mp h
      exact .plain hc (likeReads_of_likeParts? hparts)

theorem likeParts?_escaped {escape c : Char} (hc : c = escape ∨ c = '%' ∨ c = '_')
    (cs : List Char) :
    likeParts? (some escape) (escape :: c :: cs) =
      (likeParts? (some escape) cs).map (.literal c :: ·) := by
  rw [likeParts?, if_pos rfl, if_pos hc]

/-- **The parts of an escaped text are its characters.** -/
theorem likeParts?_escapeLike (token rest : List Char) :
    likeParts? (some likeEscape) (escapeLike token ++ rest) =
      (likeParts? (some likeEscape) rest).map (token.map .literal ++ ·) := by
  induction token with
  | nil => simp [escapeLike]
  | cons c token ih =>
    have hcons : escapeLike (c :: token) =
        (if c = likeEscape ∨ c = '%' ∨ c = '_' then [likeEscape, c] else [c]) ++
          escapeLike token := rfl
    rw [hcons]
    split
    · next hspecial =>
      rw [List.append_assoc, List.cons_append, List.singleton_append, likeParts?_escaped hspecial,
        ih, Option.map_map]
      rfl
    · next hplain =>
      simp only [not_or] at hplain
      have hpart : LikePart.ofChar c = .literal c := by
        simp [LikePart.ofChar, hplain.2.1, hplain.2.2]
      rw [List.append_assoc, List.singleton_append,
        likeParts?_cons (by simpa [eq_comm] using hplain.1), hpart, ih, Option.map_map]
      rfl

theorem likeFits_literals_iff {token : List Char} {parts : List LikePart} {text : List Char} :
    likeFits (token.map .literal ++ parts) text = true ↔
      ∃ rest, text = token ++ rest ∧ likeFits parts rest = true := by
  induction token generalizing text with
  | nil => simp
  | cons c token ih =>
    cases text with
    | nil => simp [likeFits]
    | cons d text =>
      show (c == d && likeFits (token.map .literal ++ parts) text) = true ↔ _
      rw [Bool.and_eq_true, beq_iff_eq, ih]
      constructor
      · rintro ⟨rfl, rest, rfl, h⟩
        exact ⟨rest, rfl, h⟩
      · rintro ⟨rest, htext, h⟩
        obtain ⟨rfl, rfl⟩ := List.cons.inj htext
        exact ⟨rfl, rest, rfl, h⟩

theorem likeParts?_between (token : List Char) :
    likeParts? (some likeEscape) ('%' :: escapeLike token ++ ['%']) =
      some (.anyRun :: (token.map .literal ++ [.anyRun])) := by
  rw [List.cons_append, likeParts?_cons (by decide), likeParts?_escapeLike]
  rfl

/-- **Between wildcards, a text fits what it occurs in.** -/
theorem likeFits_between_iff {token text : List Char} :
    likeFits (.anyRun :: (token.map .literal ++ [.anyRun])) text = true ↔ token <:+: text := by
  have hrest (rest : List Char) : likeFits [.anyRun] rest = true :=
    anyEnd_iff.mpr ⟨rest, [], by simp, rfl⟩
  show anyEnd (likeFits (token.map .literal ++ [.anyRun])) text = true ↔ _
  simp only [anyEnd_iff, likeFits_literals_iff, hrest, and_true]
  constructor
  · rintro ⟨run, _, rfl, rest, rfl⟩
    exact ⟨run, rest, by simp⟩
  · rintro ⟨run, rest, rfl⟩
    exact ⟨run, token ++ rest, by simp, rest, rfl⟩

end FilterQuery.Sql
