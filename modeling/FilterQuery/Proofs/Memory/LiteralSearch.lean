import FilterQuery.Proofs.Memory.NullFields
import FilterQuery.Proofs.Memory.Patterns
import FilterQuery.Proofs.Text.Folding

/-!
# Searching for what is literally there

Case is ignored in two ways. A pattern is put in lower case and then compared with the text up to
case folding; a token is put in lower case and so is the text, and they are compared as they are. So
a value may be missed in a text that it is a part of. The pattern of a value with `İ` has a
character more than the value, and does not match the value itself. A token with a sigma that is not
settled has the wrong sigma for some texts around it. These are the only causes
(`literal_search_finds_but_for_special_letters`).
-/

namespace FilterQuery.Memory

open Pattern (wildcard)
open Text (SigmasSettled fold lowercase lowercaseIn)

/-- The filter holds on every row whose field has a text with the sought text somewhere in it. -/
def FindsLiteral (m : Predicate) (field : String) (sought : List Char) : Prop :=
  ∀ rows row text, field? row field = some (.string text) → sought <:+: text.toList →
    m.holds rows row = true

/-- Every text is that of some row. -/
theorem findsLiteral_iff {m : Predicate} {field : String} {P : List Char → Prop}
    (h : ∀ rows row text, field? row field = some (.string text) →
      (m.holds rows row = true ↔ P text.toList)) (sought : List Char) :
    FindsLiteral m field sought ↔ ∀ text, sought <:+: text → P text := by
  constructor
  · intro hfinds text hwithin
    have hrow : field? (.object [(field, .string (String.ofList text))]) field =
        some (.string (String.ofList text)) := by
      simp [field?_object, Json.isNull]
    have hP := (h [] _ _ hrow).mp
    rw [String.toList_ofList] at hP
    exact hP (hfinds [] _ _ hrow (by rwa [String.toList_ofList]))
  · exact fun hP rows row text hrow hwithin => (h rows row text hrow).mpr (hP _ hwithin)

/-! ### Patterns -/

/-- A value without a wildcard is put in lower case between two of them. -/
theorem likePattern_eq_between {raw : String} (h : wildcard ∉ raw.toList) :
    Condition.likePattern raw =
      wildcard :: (lowercaseIn [wildcard] [wildcard] raw.toList ++ [wildcard]) := by
  rw [Condition.likePattern, if_neg (by simpa using h), lowercase, Text.lowercaseFrom,
    Text.lowercaseFrom_append]
  rfl

/-- A pattern without wildcards of its own matches the texts that it is a part of, up to case
folding. -/
theorem holds_likePattern {field raw text : String} (hwild : wildcard ∉ raw.toList)
    (rows : List Json) {row : Json} (h : field? row field = some (.string text)) :
    (Predicate.condition (.like field (String.ofList (Condition.likePattern raw)))).holds rows row =
        true ↔
      (lowercaseIn [wildcard] [wildcard] raw.toList).map fold <:+: text.toList.map fold := by
  have hmiddle : wildcard ∉ lowercaseIn [wildcard] [wildcard] raw.toList :=
    Text.not_mem_lowercaseIn (by decide) (by decide) (by decide) hwild
  rw [holds_like_string h, ← Pattern.fits_iff_cut, Pattern.fits, String.toList_ofList,
    Pattern.fitsPieces_iff, likePattern_eq_between hwild, Pattern.pieces_between hmiddle]
  exact Pattern.Cut.between_iff

theorem findsLiteral_like_iff {p : Param} {v : ParamValue} (hv : p.value = some v)
    (hwild : wildcard ∉ v.raw.toList) {m : Predicate}
    (hm : Predicate.backend.search .like p = .ok m) :
    FindsLiteral m p.name v.raw.toList ↔ 'İ' ∉ v.raw.toList := by
  rw [eq_of_search_like hv hm,
    findsLiteral_iff (P := fun text =>
      (lowercaseIn [wildcard] [wildcard] v.raw.toList).map fold <:+: text.map fold)
      fun rows _ _ hrow => holds_likePattern hwild rows hrow]
  constructor
  · intro hfinds hdotted
    have hlength := (hfinds v.raw.toList List.infix_rfl).length_le
    have hcount := List.count_pos_iff.mpr hdotted
    rw [List.length_map, List.length_map, Text.length_lowercaseIn] at hlength
    omega
  · intro hdotted text hwithin
    rw [Text.map_fold_lowercaseIn hdotted]
    exact hwithin.map fold

/-! ### Tokens -/

/-- A value without a separator is its only token. -/
theorem findsLiteral_contains_iff {p : Param} {v : ParamValue} (hne : v.raw.toList ≠ [])
    (hcomma : ',' ∉ v.raw.toList) (htrim : Text.trim v.raw.toList = v.raw.toList) :
    FindsLiteral (.condition (.contains p.name (Condition.containsTokens v.raw))) p.name
      v.raw.toList ↔ SigmasSettled v.raw.toList := by
  have htoken : ((v.raw.toList.splitOn ',').map Text.trim).filter (· ≠ []) = [v.raw.toList] := by
    rw [List.splitOn_eq_singleton hcomma, List.map_singleton, htrim]
    exact List.filter_cons_of_pos (by simpa using hne)
  rw [findsLiteral_iff (P := fun text => lowercase v.raw.toList <:+: lowercase text),
    Text.lowercase_infix_iff]
  intro rows row text hrow
  rw [holds_containsTokens _ rows hrow, htoken, List.all_cons, List.all_nil, Bool.and_true,
    Pattern.occursIn_iff]

/-- **What is literally there is found, but for two letters.** Let a value be a text without
wildcards and separators and without blanks at its ends. Unless its matcher is too large, its
pattern finds the value in every text that has it somewhere in it if the value is without `İ`, and
else misses one. Its token finds the value in all of these texts if the sigmas of the value are
settled, and else misses one. -/
theorem literal_search_finds_but_for_special_letters {p : Param} {v : ParamValue}
    (hv : p.value = some v) (hne : v.raw.toList ≠ []) (hwild : wildcard ∉ v.raw.toList)
    (hcomma : ',' ∉ v.raw.toList) (htrim : Text.trim v.raw.toList = v.raw.toList) :
    ((∃ m, Predicate.backend.search .like p = .ok m) ↔
        Pattern.matcherBytes (Condition.likePattern v.raw) ≤ Pattern.matcherLimit) ∧
      (∀ m, Predicate.backend.search .like p = .ok m →
        (FindsLiteral m p.name v.raw.toList ↔ 'İ' ∉ v.raw.toList)) ∧
      ∃ m, Predicate.backend.search .contains p = .ok m ∧
        (FindsLiteral m p.name v.raw.toList ↔ SigmasSettled v.raw.toList) := by
  exact ⟨exists_search_like_iff hv, fun m hm => findsLiteral_like_iff hv hwild hm,
    _, search_contains hv, findsLiteral_contains_iff hne hcomma htrim⟩

/-- Each search misses a text that the other finds: the pattern of `İ` misses the letter itself, and
the token that ends in a final sigma misses a longer word. -/
theorem literal_search_finds_but_for_special_letters_of_words :
    let p (value : String) := Param.withCode "a" "contains" (.text value)
    let row (text : String) := Json.object [("a", .string text)]
    (∃ m, Predicate.backend.search .like (p "İ") = .ok m ∧
      ¬ FindsLiteral m "a" "İ".toList ∧ m.holds [] (row "İ") = false) ∧
    (∃ m, Predicate.backend.search .contains (p "İ") = .ok m ∧ FindsLiteral m "a" "İ".toList) ∧
    (∃ m, Predicate.backend.search .like (p "ΟΔΟΣ") = .ok m ∧
      FindsLiteral m "a" "ΟΔΟΣ".toList) ∧
    ∃ m, Predicate.backend.search .contains (p "ΟΔΟΣ") = .ok m ∧
      ¬ FindsLiteral m "a" "ΟΔΟΣ".toList ∧ m.holds [] (row "ΟΔΟΣΗΜΑ") = false := by
  intro p row
  have hrow (text : String) : field? (row text) "a" = some (.string text) := rfl
  obtain ⟨hbuildsI, hlikeI, mI, hmI, hcontainsI⟩ :=
    literal_search_finds_but_for_special_letters (p := p "İ") (v := .text "İ") rfl (by decide)
      (by decide) (by decide) (by decide)
  obtain ⟨hbuildsS, hlikeS, mS, hmS, hcontainsS⟩ :=
    literal_search_finds_but_for_special_letters (p := p "ΟΔΟΣ") (v := .text "ΟΔΟΣ") rfl
      (by decide) (by decide) (by decide) (by decide)
  obtain ⟨lI, hlI⟩ := hbuildsI.mpr (by decide +kernel)
  obtain ⟨lS, hlS⟩ := hbuildsS.mpr (by decide +kernel)
  refine ⟨⟨lI, hlI, ?_, ?_⟩, ⟨mI, hmI, ?_⟩, ⟨lS, hlS, ?_⟩, mS, hmS, ?_, ?_⟩
  · exact mt (hlikeI lI hlI).mp (by decide)
  · rw [eq_of_search_like rfl hlI]
    decide +kernel
  · exact hcontainsI.mpr (by decide +kernel)
  · exact (hlikeS lS hlS).mpr (by decide)
  · exact mt hcontainsS.mp (by decide +kernel)
  · obtain rfl := Except.ok.inj (hmS.symm.trans (search_contains rfl))
    exact (holds_containsTokens "ΟΔΟΣ" [] (hrow "ΟΔΟΣΗΜΑ")).trans (by decide +kernel)

end FilterQuery.Memory
