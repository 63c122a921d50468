import FilterQuery.Pattern
import Mathlib.Data.List.Forall2

/-!
# The language of a pattern

A text fits a pattern if it can be cut into the pieces of the pattern, in order and from end to end,
with a gap at each wildcard (`Cut`). The matcher never looks for a cut. It takes the first piece at
the front, each later piece at its first occurrence, and the last one at the end. That is enough: to
take a piece earlier leaves more text to the gap behind it, and a gap may be anything
(`fitsPieces_iff`). The two ends are looked at apart, so that they never overlap.
-/

namespace FilterQuery.Pattern

/-! ### Cuts -/

/-- A text is cut into pieces, each of which spells its part of the text character by character, and
into gaps between them. -/
inductive Cut (spells : Char → Char → Prop) (fills : Char → Prop) :
    (pieces : List (List Char)) → (text : List Char) → Prop
  | last {piece part : List Char} : List.Forall₂ spells piece part → Cut spells fills [piece] part
  | cons {piece part gap text : List Char} {pieces : List (List Char)} :
    List.Forall₂ spells piece part → (∀ c ∈ gap, fills c) → Cut spells fills pieces text →
    Cut spells fills (piece :: pieces) (part ++ gap ++ text)

/-- Any character at all: what may stand in a gap. -/
def Anything (_ : Char) : Prop := True

namespace Cut

variable {spells spells' : Char → Char → Prop} {fills fills' : Char → Prop}
  {pieces : List (List Char)} {piece text : List Char}

theorem ne_nil (h : Cut spells fills pieces text) : pieces ≠ [] := by
  cases h <;> simp

theorem singleton_iff : Cut spells fills [piece] text ↔ List.Forall₂ spells piece text := by
  refine ⟨?_, .last⟩
  intro h
  cases h with
  | last h => exact h
  | cons _ _ h => exact absurd rfl h.ne_nil

theorem cons_iff (hne : pieces ≠ []) :
    Cut spells fills (piece :: pieces) text ↔
      ∃ part gap rest, text = part ++ gap ++ rest ∧ List.Forall₂ spells piece part ∧
        (∀ c ∈ gap, fills c) ∧ Cut spells fills pieces rest := by
  constructor
  · intro h
    cases h with
    | last => exact absurd rfl hne
    | cons hpart hgap hrest => exact ⟨_, _, _, rfl, hpart, hgap, hrest⟩
  · rintro ⟨part, gap, rest, rfl, hpart, hgap, hrest⟩
    exact .cons hpart hgap hrest

/-- A text begins with what the first character of the first piece spells. -/
theorem modifyHead_cons_iff {c : Char} (hne : pieces ≠ []) :
    Cut spells fills (pieces.modifyHead (c :: ·)) text ↔
      ∃ d rest, text = d :: rest ∧ spells c d ∧ Cut spells fills pieces rest := by
  obtain ⟨piece, pieces, rfl⟩ := List.exists_cons_of_ne_nil hne
  rw [List.modifyHead_cons]
  rcases eq_or_ne pieces [] with rfl | hne
  · simp only [singleton_iff, List.forall₂_cons_left_iff]
    constructor
    · rintro ⟨d, rest, hd, hrest, rfl⟩
      exact ⟨d, rest, rfl, hd, hrest⟩
    · rintro ⟨d, rest, rfl, hd, hrest⟩
      exact ⟨d, rest, hd, hrest, rfl⟩
  · simp only [cons_iff hne, List.forall₂_cons_left_iff]
    constructor
    · rintro ⟨_, gap, rest, rfl, ⟨d, part, hd, hpart, rfl⟩, hgap, hrest⟩
      exact ⟨d, part ++ gap ++ rest, rfl, hd, part, gap, rest, rfl, hpart, hgap, hrest⟩
    · rintro ⟨d, _, rfl, hd, part, gap, rest, rfl, hpart, hgap, hrest⟩
      exact ⟨d :: part, gap, rest, rfl, ⟨d, part, hd, hpart, rfl⟩, hgap, hrest⟩

/-- A cut remains one if the characters of its pieces may spell more, and its gaps hold more. -/
theorem imp (h : Cut spells fills pieces text)
    (hspells : ∀ piece ∈ pieces, ∀ c ∈ piece, ∀ d ∈ text, spells c d → spells' c d)
    (hfills : ∀ c ∈ text, fills c → fills' c) : Cut spells' fills' pieces text := by
  have hpart {piece part : List Char} (hspells : ∀ c ∈ piece, ∀ d ∈ part, spells c d → spells' c d)
      (h : List.Forall₂ spells piece part) : List.Forall₂ spells' piece part := by
    obtain ⟨hlength, hzip⟩ := List.forall₂_iff_zip.mp h
    refine List.forall₂_iff_zip.mpr ⟨hlength, fun hcd => ?_⟩
    obtain ⟨hc, hd⟩ := List.of_mem_zip hcd
    exact hspells _ hc _ hd (hzip hcd)
  induction h with
  | @last piece part h => exact .last (hpart (hspells piece (by simp)) h)
  | @cons piece part gap text pieces h hgap _ ih =>
    refine .cons (hpart ?_ h) ?_ (ih ?_ ?_)
    · exact fun c hc d hd => hspells piece (by simp) c hc d (by simp [hd])
    · exact fun c hc => hfills c (by simp [hc]) (hgap c hc)
    · exact fun q hq c hc d hd => hspells q (by simp [hq]) c hc d (by simp [hd])
    · exact fun c hc => hfills c (by simp [hc])

/-- A text that is put through a map is cut where the text itself is. -/
theorem map_right_iff {f : Char → Char} :
    Cut spells Anything pieces (text.map f) ↔
      Cut (fun c d => spells c (f d)) Anything pieces text := by
  induction pieces generalizing text with
  | nil => exact iff_of_false (fun h => h.ne_nil rfl) fun h => h.ne_nil rfl
  | cons piece pieces ih =>
    rcases eq_or_ne pieces [] with rfl | hne
    · rw [singleton_iff, singleton_iff, List.forall₂_map_right_iff]
    · rw [cons_iff hne, cons_iff hne]
      constructor
      · rintro ⟨_, _, _, htext, hpart, -, hrest⟩
        obtain ⟨_, rest, rfl, h, rfl⟩ := List.map_eq_append_iff.mp htext
        obtain ⟨part, gap, rfl, rfl, -⟩ := List.map_eq_append_iff.mp h
        rw [List.forall₂_map_right_iff] at hpart
        exact ⟨part, gap, rest, rfl, hpart, by simp [Anything], ih.mp hrest⟩
      · rintro ⟨part, gap, rest, rfl, hpart, -, hrest⟩
        refine ⟨part.map f, gap.map f, rest.map f, by simp, ?_, by simp [Anything], ih.mpr hrest⟩
        rwa [List.forall₂_map_right_iff]

/-- Pieces that are put through a map are spelled as the map says. -/
theorem map_left_iff {f : Char → Char} :
    Cut spells fills (pieces.map (·.map f)) text ↔
      Cut (fun c d => spells (f c) d) fills pieces text := by
  induction pieces generalizing text with
  | nil => exact iff_of_false (fun h => h.ne_nil rfl) fun h => h.ne_nil rfl
  | cons piece pieces ih =>
    rcases eq_or_ne pieces [] with rfl | hne
    · rw [List.map_cons, List.map_nil, singleton_iff, singleton_iff, List.forall₂_map_left_iff]
    · rw [List.map_cons, cons_iff (by simpa using hne), cons_iff hne]
      simp only [List.forall₂_map_left_iff, ih]

/-- The text that is spelled without gaps. -/
theorem flatten_map {f : Char → Char} (hne : pieces ≠ [])
    (h : ∀ c ∈ pieces.flatten, spells c (f c)) :
    Cut spells fills pieces (pieces.flatten.map f) := by
  have hpart {piece : List Char} (h : ∀ c ∈ piece, spells c (f c)) :
      List.Forall₂ spells piece (piece.map f) := by
    rw [List.forall₂_map_right_iff]
    exact List.forall₂_same.mpr h
  induction pieces with
  | nil => exact absurd rfl hne
  | cons piece pieces ih =>
    rw [List.flatten_cons, List.forall_mem_append] at h
    rcases eq_or_ne pieces [] with rfl | hne
    · exact singleton_iff.mpr (by simpa using hpart h.1)
    · refine (cons_iff hne).mpr ⟨piece.map f, [], pieces.flatten.map f, by simp, hpart h.1, ?_, ?_⟩
      · exact fun _ h => nomatch h
      · exact ih hne h.2

/-- Every character of the pieces is spelled. -/
theorem exists_spelled (h : Cut spells fills pieces text) {c : Char} (hc : c ∈ pieces.flatten) :
    ∃ d ∈ text, spells c d := by
  have hpart {piece part : List Char} (h : List.Forall₂ spells piece part) (hc : c ∈ piece) :
      ∃ d ∈ part, spells c d := by
    induction h with
    | nil => cases hc
    | @cons b d piece part hbd _ ih =>
      rcases List.mem_cons.mp hc with rfl | hc
      · exact ⟨d, by simp, hbd⟩
      · obtain ⟨d, hd, hcd⟩ := ih hc
        exact ⟨d, by simp [hd], hcd⟩
  induction h with
  | last h => exact hpart h (by simpa using hc)
  | cons h _ _ ih =>
    rcases List.mem_append.mp hc with hc | hc
    · obtain ⟨d, hd, hcd⟩ := hpart h hc
      exact ⟨d, by simp [hd], hcd⟩
    · obtain ⟨d, hd, hcd⟩ := ih hc
      exact ⟨d, by simp [hd], hcd⟩

/-- Between two wildcards stands what the text has somewhere in it. -/
theorem between_iff : Cut Eq Anything [[], piece, []] text ↔ piece <:+: text := by
  simp only [cons_iff (List.cons_ne_nil _ _), singleton_iff, List.forall₂_eq_eq_eq]
  constructor
  · rintro ⟨_, before, _, rfl, rfl, -, _, after, _, rfl, rfl, -, rfl⟩
    exact ⟨before, after, by simp⟩
  · rintro ⟨before, after, rfl⟩
    exact ⟨[], before, piece ++ after, by simp, rfl, by simp [Anything], piece, after, [], by simp,
      rfl, by simp [Anything], rfl⟩

end Cut

/-! ### Pieces -/

theorem pieces_ne_nil (pattern : List Char) : pieces pattern ≠ [] :=
  List.splitOn_ne_nil _ pattern

theorem pieces_wildcard (pattern : List Char) :
    pieces (wildcard :: pattern) = [] :: pieces pattern := by
  rw [pieces, List.splitOn_cons_eq_if_modifyHead, if_pos (beq_self_eq_true _), pieces]

theorem pieces_cons {c : Char} (hc : c ≠ wildcard) (pattern : List Char) :
    pieces (c :: pattern) = (pieces pattern).modifyHead (c :: ·) := by
  rw [pieces, List.splitOn_cons_eq_if_modifyHead, if_neg (by simpa using hc), pieces]

/-- The pieces are the pattern without its wildcards. -/
theorem flatten_pieces (pattern : List Char) :
    (pieces pattern).flatten = pattern.filter (· ≠ wildcard) := by
  induction pattern with
  | nil => rfl
  | cons c pattern ih =>
    by_cases hc : c = wildcard
    · rw [hc, pieces_wildcard, List.flatten_cons, ih]
      simp
    · obtain ⟨piece, rest, hpieces⟩ := List.exists_cons_of_ne_nil (pieces_ne_nil pattern)
      rw [List.filter_cons_of_pos (by simpa using hc), ← ih, pieces_cons hc, hpieces]
      rfl

theorem mem_flatten_pieces {c : Char} {pattern : List Char} :
    c ∈ (pieces pattern).flatten ↔ c ∈ pattern ∧ c ≠ wildcard := by
  rw [flatten_pieces, List.mem_filter, decide_eq_true_iff]

theorem mem_of_mem_pieces {c : Char} {piece pattern : List Char} (hpiece : piece ∈ pieces pattern)
    (hc : c ∈ piece) : c ∈ pattern :=
  (mem_flatten_pieces.mp (List.mem_flatten.mpr ⟨piece, hpiece, hc⟩)).1

/-- A wildcard parts two pieces. -/
theorem pieces_of_mem {pattern : List Char} (h : wildcard ∈ pattern) :
    ∃ first rest, pieces pattern = first :: rest ∧ rest ≠ [] := by
  obtain ⟨before, after, rfl, hbefore⟩ := List.eq_append_cons_of_mem h
  refine ⟨before, pieces after, ?_, pieces_ne_nil after⟩
  exact List.splitOn_append_cons_self_of_not_mem hbefore after

/-- A pattern with wildcards at its ends only. -/
theorem pieces_between {middle : List Char} (h : wildcard ∉ middle) :
    pieces (wildcard :: (middle ++ [wildcard])) = [[], middle, []] := by
  rw [pieces_wildcard, pieces, List.splitOn_append_cons_self_of_not_mem h, List.splitOn_nil]

/-! ### First occurrences -/

section

variable {piece text rest : List Char}

theorem afterFirst?_append (piece tail : List Char) :
    afterFirst? piece (piece ++ tail) = some tail := by
  have hfront : piece.isPrefixOf (piece ++ tail) :=
    List.isPrefixOf_iff_prefix.mpr (List.prefix_append piece tail)
  rw [afterFirst?.eq_def, if_pos hfront, List.drop_left]

theorem eq_append_of_afterFirst? (h : afterFirst? piece text = some rest) :
    ∃ gap, text = gap ++ piece ++ rest := by
  induction text with
  | nil =>
    cases piece with
    | nil => exact ⟨[], by simpa [afterFirst?] using h⟩
    | cons c piece => simp [afterFirst?] at h
  | cons c text ih =>
    by_cases hfront : piece <+: c :: text
    · obtain ⟨tail, htail⟩ := hfront
      rw [← htail, afterFirst?_append] at h
      obtain rfl := Option.some.inj h
      exact ⟨[], htail.symm⟩
    · rw [afterFirst?, if_neg (by rwa [List.isPrefixOf_iff_prefix])] at h
      obtain ⟨gap, rfl⟩ := ih h
      exact ⟨c :: gap, rfl⟩

/-- After the first occurrence of a piece comes all that comes after another one, and more. -/
theorem exists_afterFirst? (gap piece tail : List Char) :
    ∃ rest, afterFirst? piece (gap ++ piece ++ tail) = some rest ∧ tail <:+ rest := by
  induction gap with
  | nil => exact ⟨tail, afterFirst?_append piece tail, List.suffix_rfl⟩
  | cons c gap ih =>
    rw [List.cons_append, List.cons_append, afterFirst?]
    split
    · next hfront =>
      refine ⟨_, rfl, ?_⟩
      have htail : tail <:+ c :: (gap ++ piece ++ tail) :=
        ⟨c :: (gap ++ piece), by simp⟩
      apply List.suffix_of_suffix_length_le htail (List.drop_suffix ..)
      simp only [List.length_drop, List.length_cons, List.length_append]
      omega
    · exact ih

theorem occursIn_iff : occursIn piece text = true ↔ piece <:+: text := by
  rw [occursIn, Option.isSome_iff_exists]
  constructor
  · rintro ⟨rest, hrest⟩
    obtain ⟨gap, rfl⟩ := eq_append_of_afterFirst? hrest
    exact ⟨gap, rest, rfl⟩
  · rintro ⟨gap, tail, rfl⟩
    obtain ⟨rest, hrest, -⟩ := exists_afterFirst? gap piece tail
    exact ⟨rest, hrest⟩

end

/-! ### The matcher -/

theorem scattered_cons {piece next text : List Char} {pieces : List (List Char)} :
    scattered (piece :: next :: pieces) text = true ↔
      ∃ rest, afterFirst? piece text = some rest ∧ scattered (next :: pieces) rest = true := by
  rw [scattered.eq_3 _ _ _ (by simp)]
  cases afterFirst? piece text <;> simp

theorem scattered_iff {pieces : List (List Char)} (hne : pieces ≠ []) {text : List Char} :
    scattered pieces text = true ↔
      ∃ gap rest, text = gap ++ rest ∧ Cut Eq Anything pieces rest := by
  induction pieces generalizing text with
  | nil => exact absurd rfl hne
  | cons piece pieces ih =>
    cases pieces with
    | nil =>
      simp only [scattered, List.isSuffixOf_iff_suffix, Cut.singleton_iff, List.forall₂_eq_eq_eq]
      constructor
      · rintro ⟨gap, rfl⟩
        exact ⟨gap, piece, rfl, rfl⟩
      · rintro ⟨gap, rest, rfl, rfl⟩
        exact ⟨gap, rfl⟩
    | cons next pieces =>
      have ih := fun text => @ih (by simp) text
      rw [scattered_cons]
      constructor
      · rintro ⟨rest, hrest, h⟩
        obtain ⟨gap, rfl⟩ := eq_append_of_afterFirst? hrest
        obtain ⟨gap', tail, rfl, htail⟩ := (ih rest).mp h
        refine ⟨gap, piece ++ gap' ++ tail, by simp, .cons ?_ (by simp [Anything]) htail⟩
        rw [List.forall₂_eq_eq_eq]
      · rintro ⟨gap, rest, rfl, hrest⟩
        obtain ⟨part, gap', tail, rfl, hpart, -, htail⟩ := (Cut.cons_iff (by simp)).mp hrest
        obtain rfl : piece = part := by rwa [List.forall₂_eq_eq_eq] at hpart
        obtain ⟨rest, hrest, before, rfl⟩ := exists_afterFirst? gap piece (gap' ++ tail)
        have htext : gap ++ (piece ++ gap' ++ tail) = gap ++ piece ++ (gap' ++ tail) := by simp
        exact ⟨_, htext ▸ hrest, (ih _).mpr ⟨before ++ gap', tail, by simp, htail⟩⟩

/-- **First occurrences find a cut if there is one.** -/
theorem fitsPieces_iff {pieces : List (List Char)} {text : List Char} :
    fitsPieces pieces text = true ↔ Cut Eq Anything pieces text := by
  cases pieces with
  | nil => exact iff_of_false (by simp [fitsPieces]) fun h => h.ne_nil rfl
  | cons piece pieces =>
    rw [fitsPieces, Bool.and_eq_true, List.isPrefixOf_iff_prefix]
    rcases eq_or_ne pieces [] with rfl | hne
    · rw [Cut.singleton_iff, List.forall₂_eq_eq_eq, scattered, List.isEmpty_iff,
        List.drop_eq_nil_iff]
      constructor
      · rintro ⟨hfront, hlength⟩
        exact hfront.eq_of_length_le hlength
      · rintro rfl
        exact ⟨List.prefix_rfl, Nat.le_refl _⟩
    · rw [scattered_iff hne, Cut.cons_iff hne]
      constructor
      · rintro ⟨⟨tail, rfl⟩, gap, rest, htail, hrest⟩
        rw [List.drop_left] at htail
        refine ⟨piece, gap, rest, by simp [htail], ?_, by simp [Anything], hrest⟩
        rw [List.forall₂_eq_eq_eq]
      · rintro ⟨part, gap, rest, rfl, hpart, -, hrest⟩
        obtain rfl : piece = part := by rwa [List.forall₂_eq_eq_eq] at hpart
        exact ⟨⟨gap ++ rest, by simp⟩, gap, rest, by simp, hrest⟩

end FilterQuery.Pattern
