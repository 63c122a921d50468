import FilterQuery.Memory.Predicate
import FilterQuery.Proofs.Agreement.Acceptance
import FilterQuery.Proofs.Pattern.Regex

/-!
# What a pattern matches in memory

In memory a text matches a pattern if it can be cut into the pieces of the pattern, letters of
either case being one, with anything at all between them (`fits_iff_cut`). It is the same to look
for the regular expression of the pattern with case off and with dots that stand for line breaks
(`finds_regex_iff_cut`), so the matcher here may stand for an engine of regular expressions.

A pattern is refused for the size of its matcher and for nothing else.

Tokens are looked for in another way: each must occur in the text, both of them put in lower case
(`holds_containsTokens`).
-/

namespace FilterQuery

open Pattern (Cut Anything)
open Text (SameLetter)

/-! ### Patterns -/

theorem Pattern.fits_iff_cut {pattern text : List Char} :
    fits pattern text = true ↔ Cut SameLetter Anything (pieces pattern) text := by
  rw [fits, fitsPieces_iff, Cut.map_left_iff, Cut.map_right_iff]
  rfl

instance (pattern text : List Char) :
    Decidable (Cut SameLetter Anything (Pattern.pieces pattern) text) :=
  decidable_of_iff _ Pattern.fits_iff_cut

/-- The engine as it is set up in memory. -/
def Memory.regexMode : Regex.Mode :=
  { anyCase := true, dotAll := true }

theorem Memory.finds_regex_iff_cut {pattern text : List Char} :
    Regex.Finds regexMode (Pattern.regex pattern) text ↔
      Cut SameLetter Anything (Pattern.pieces pattern) text := by
  have hfills : Regex.Symbol.dot.Admits regexMode = Anything := by
    funext c
    exact eq_true (.inl rfl)
  rw [Regex.finds_regex_iff_of_anyCase rfl, hfills]
  constructor
  · rintro ⟨body, tail, rfl, htail, h⟩
    obtain rfl : tail = [] := by simpa [Regex.Mode.AtEnd, regexMode] using htail
    simpa using h
  · exact fun h => ⟨text, [], by simp, .inl rfl, h⟩

/-! ### Parameters -/

theorem Condition.ofParam_like {p : Param} {v : ParamValue} (hv : p.value = some v) :
    ofParam .like p = .ok (.like p.name (String.ofList (likePattern v.raw))) :=
  ofParam_eq_ok.mpr (.like hv)

theorem Condition.ofParam_contains {p : Param} {v : ParamValue} (hv : p.value = some v) :
    ofParam .contains p = .ok (.contains p.name (containsTokens v.raw)) :=
  ofParam_eq_ok.mpr (.contains hv)

namespace Memory

/-- A pattern in memory: the text of the field fits, if it has a text. -/
theorem holds_like {field pattern : String} {rows : List Json} {row : Json} :
    (Predicate.condition (.like field pattern)).holds rows row = true ↔
      ∃ text, (field? row field).bind fieldText? = some text ∧
        Cut SameLetter Anything (Pattern.pieces pattern.toList) text.toList := by
  rw [Predicate.holds, fulfils, Option.any_eq_true]
  simp only [Pattern.fits_iff_cut]

theorem holds_like_string {field pattern text : String} {rows : List Json} {row : Json}
    (h : field? row field = some (.string text)) :
    (Predicate.condition (.like field pattern)).holds rows row = true ↔
      Cut SameLetter Anything (Pattern.pieces pattern.toList) text.toList := by
  rw [holds_like, h]
  simp [fieldText?]

/-- In memory, what a parameter with a pattern is planned as. -/
theorem search_like {p : Param} {v : ParamValue} (hv : p.value = some v) :
    let pattern := Condition.likePattern v.raw
    Predicate.backend.search .like p =
      if Pattern.matcherBytes pattern ≤ Pattern.matcherLimit then
        .ok (.condition (.like p.name (String.ofList pattern)))
      else .error (.patternTooLarge (String.ofList pattern) Pattern.matcherLimit) := by
  rw [Backend.search_of_ofParam (Condition.ofParam_like hv)]
  simp only [Predicate.backend, Predicate.ofCondition, String.toList_ofList]

/-- Only the size of its matcher keeps a pattern from being planned. -/
theorem exists_search_like_iff {p : Param} {v : ParamValue} (hv : p.value = some v) :
    (∃ m, Predicate.backend.search .like p = .ok m) ↔
      Pattern.matcherBytes (Condition.likePattern v.raw) ≤ Pattern.matcherLimit := by
  rw [search_like hv]
  split
  · next h => exact iff_of_true ⟨_, rfl⟩ h
  · next h => exact iff_of_false (fun ⟨_, h⟩ => nomatch h) h

theorem eq_of_search_like {p : Param} {v : ParamValue} (hv : p.value = some v) {m : Predicate}
    (hm : Predicate.backend.search .like p = .ok m) :
    m = .condition (.like p.name (String.ofList (Condition.likePattern v.raw))) := by
  rw [search_like hv] at hm
  split at hm
  · exact (Except.ok.inj hm).symm
  · cases hm

/-- In memory, what a parameter with tokens is planned as. -/
theorem search_contains {p : Param} {v : ParamValue} (hv : p.value = some v) :
    Predicate.backend.search .contains p =
      .ok (.condition (.contains p.name (Condition.containsTokens v.raw))) :=
  Backend.search_of_ofParam (Condition.ofParam_contains hv)

theorem holds_contains {field text : String} (tokens : List String) (rows : List Json)
    {row : Json} (h : field? row field = some (.string text)) :
    (Predicate.condition (.contains field tokens)).holds rows row =
      tokens.all fun token => Pattern.occursIn token.toList (Text.lowercase text.toList) := by
  rw [Predicate.holds, fulfils, h]
  rfl

/-- What memory looks for in a text: the trimmed elements of the value that are not blank. -/
theorem holds_containsTokens {field text : String} (raw : String) (rows : List Json)
    {row : Json} (h : field? row field = some (.string text)) :
    (Predicate.condition (.contains field (Condition.containsTokens raw))).holds rows row =
      (((raw.toList.splitOn ',').map Text.trim).filter (· ≠ [])).all fun token =>
        Pattern.occursIn (Text.lowercase token) (Text.lowercase text.toList) := by
  rw [holds_contains _ rows h, Condition.containsTokens, List.all_map]
  simp only [Function.comp_def, String.toList_ofList]

/-- **A pattern matches its wildcard language.** If its matcher is not too large, a parameter is
planned, and its filter holds on the rows whose field has a text that can be cut into the pieces of
the pattern; these are the texts in which the regular expression of the pattern is found. -/
theorem like_matches_wildcard_language {p : Param} {v : ParamValue} (hv : p.value = some v) :
    let pattern := Condition.likePattern v.raw
    ((∃ m, Predicate.backend.search .like p = .ok m) ↔
        Pattern.matcherBytes pattern ≤ Pattern.matcherLimit) ∧
      ∀ m, Predicate.backend.search .like p = .ok m → ∀ rows row,
        (m.holds rows row = true ↔ ∃ text, (field? row p.name).bind fieldText? = some text ∧
          Cut SameLetter Anything (Pattern.pieces pattern) text.toList) ∧
        (m.holds rows row = true ↔ ∃ text, (field? row p.name).bind fieldText? = some text ∧
          Regex.Finds regexMode (Pattern.regex pattern) text.toList) := by
  intro pattern
  constructor
  · exact exists_search_like_iff hv
  · intro m hm rows row
    rw [eq_of_search_like hv hm, holds_like, String.toList_ofList]
    simp only [finds_regex_iff_cut]
    exact ⟨Iff.rfl, Iff.rfl⟩

/-- A sign of regular expressions in the pattern, and line breaks and letters of the other case in
the text. -/
theorem like_matches_wildcard_language_across_lines :
    let p := Param.withCode "name" "like" (.text "X.%Y")
    let row (text : String) := Json.object [("name", .string text)]
    ∃ m, Predicate.backend.search .like p = .ok m ∧
      m.holds [] (row "x.\n\nY") = true ∧ m.holds [] (row "x-\n\nY") = false := by
  intro p row
  obtain ⟨hbuilds, hholds⟩ :=
    like_matches_wildcard_language (p := p) (v := .text "X.%Y") rfl
  obtain ⟨m, hm⟩ := hbuilds.mpr (by decide)
  refine ⟨m, hm, (hholds m hm [] _).1.mpr ⟨_, rfl, by decide⟩, ?_⟩
  rw [Bool.eq_false_iff, ne_eq, (hholds m hm [] _).1]
  rintro ⟨_, ⟨⟩, h⟩
  revert h
  decide

end Memory

end FilterQuery
