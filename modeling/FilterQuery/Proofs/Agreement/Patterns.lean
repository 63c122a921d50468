import FilterQuery.Document.Filter
import FilterQuery.Proofs.Agreement.Flat
import FilterQuery.Proofs.Memory.Patterns
import FilterQuery.Proofs.Sql.Like

/-!
# Where the backends agree on patterns

All backends are given one pattern in lower case, and each hands it on in the language of its own
engine. What memory matches is what the pattern says (`Memory.holds_like`); the others match

* in SQL, for ASCII text, all of that, and more if there is an underscore in the pattern: `LIKE`
  takes it for any character (`patterns_agree_but_for_underscores`);
* in a document store all of that but for line breaks. The options of the expression leave a dot
  without line breaks, so no wildcard stands for one; and `$` passes over one at the very end
  (`patterns_agree_but_for_line_breaks`). Every pattern has a wildcard, so there is always a text on
  which the two differ.
-/

namespace FilterQuery

open Memory (field?)
open Pattern (Cut Anything pieces wildcard)
open Sql (LikeSpells Row)
open Text (IsAscii SameLetter)

/-! ### Patterns in ASCII -/

namespace Condition

/-- Every pattern has a wildcard. -/
theorem wildcard_mem_likePattern (raw : String) : wildcard ∈ likePattern raw := by
  rw [likePattern]
  apply Text.toLower_mem_lowercase (c := wildcard) (by decide)
  split
  · next h => exact List.contains_iff_mem.mp h
  · exact List.mem_cons_self

variable {raw : String}

/-- A value without a wildcard gets one at either end. -/
theorem likePattern_of_not_mem (hascii : IsAscii raw.toList) (h : wildcard ∉ raw.toList) :
    likePattern raw = wildcard :: (Text.lowercase raw.toList ++ [wildcard]) := by
  have hwrapped : IsAscii (wildcard :: (raw.toList ++ [wildcard])) := by
    have hwildcard : wildcard.toNat < 0x80 := by decide
    simpa [IsAscii, hwildcard, or_imp, forall_and] using hascii
  rw [likePattern, if_neg (by simpa using h), Text.lowercase_of_isAscii hwrapped,
    Text.lowercase_of_isAscii hascii]
  simp [wildcard]

theorem likePattern_of_mem (h : wildcard ∈ raw.toList) :
    likePattern raw = Text.lowercase raw.toList := by
  rw [likePattern, if_pos (by simpa using h)]

/-- The pattern of an ASCII value is in ASCII and in lower case, and has an underscore only if the
value has. -/
theorem likePattern_of_isAscii (hascii : IsAscii raw.toList) :
    IsAscii (likePattern raw) ∧ (∀ c ∈ likePattern raw, c.toLower = c) ∧
      ('_' ∈ likePattern raw ↔ '_' ∈ raw.toList) := by
  have hlower : IsAscii (Text.lowercase raw.toList) ∧
      ∀ c ∈ Text.lowercase raw.toList, c.toLower = c :=
    ⟨Text.isAscii_lowercase hascii, fun _ => Text.toLower_of_mem_lowercase hascii⟩
  have hmem : '_' ∈ Text.lowercase raw.toList ↔ '_' ∈ raw.toList :=
    Text.Caseless.mem_lowercase_iff (by decide) hascii
  by_cases h : wildcard ∈ raw.toList
  · rw [likePattern_of_mem h]
    exact ⟨hlower.1, hlower.2, hmem⟩
  · rw [likePattern_of_not_mem hascii h, ← hmem]
    have hwildcard : wildcard.toNat < 0x80 ∧ wildcard.toLower = wildcard ∧ '_' ≠ wildcard := by
      decide
    simpa [IsAscii, hwildcard, or_imp, forall_and] using hlower

end Condition

/-- In ASCII, letters are the same if they are so in lower case. -/
theorem cut_sameLetter_iff {pattern text : List Char} (hpattern : IsAscii pattern)
    (hlower : ∀ c ∈ pattern, c.toLower = c) (htext : IsAscii text) :
    Cut SameLetter Anything (pieces pattern) text ↔
      Cut Eq Anything (pieces pattern) (Text.lowercase text) := by
  have hspells {piece : List Char} (hpiece : piece ∈ pieces pattern) {c d : Char} (hc : c ∈ piece)
      (hd : d ∈ text) : SameLetter c d ↔ c = d.toLower := by
    have hc := Pattern.mem_of_mem_pieces hpiece hc
    rw [SameLetter, Text.fold_of_isAscii (hpattern c hc), Text.fold_of_isAscii (htext d hd),
      hlower c hc]
  rw [Text.lowercase_of_isAscii htext, Cut.map_right_iff]
  constructor
  · exact fun h => h.imp (fun _ hpiece c hc d hd => (hspells hpiece hc hd).mp) fun _ _ => id
  · exact fun h => h.imp (fun _ hpiece c hc d hd => (hspells hpiece hc hd).mpr) fun _ _ => id

/-! ### SQL -/

theorem Sql.eval_like_ofJson {field pattern text : String} (db : Sql.Database) {row : Json}
    (h : field? row field = some (.string text)) :
    (Sql.Predicate.ofCondition (.like field pattern)).eval db (Row.ofJson row) = .true ↔
      Cut LikeSpells Anything (pieces pattern.toList) (Text.lowercase text.toList) := by
  rw [Sql.Predicate.ofCondition, Sql.Predicate.eval, Row.ofJson_of_stored h]
  exact Sql.likeLower_string_eq_true

/-- For an underscore `LIKE` takes another character, and a pattern in memory does not. -/
theorem exists_text_of_underscore {pattern : List Char} (hpattern : IsAscii pattern)
    (hlower : ∀ c ∈ pattern, c.toLower = c) (h : '_' ∈ pattern) :
    ∃ text, IsAscii text ∧ Cut LikeSpells Anything (pieces pattern) (Text.lowercase text) ∧
      ¬ Cut Eq Anything (pieces pattern) (Text.lowercase text) := by
  let letter (c : Char) : Char := if c = '_' then 'a' else c
  have hletter : ∀ c ∈ (pieces pattern).flatten,
      (letter c).toNat < 0x80 ∧ (letter c).toLower = letter c ∧ letter c ≠ '_' := by
    intro c hc
    have hc := (Pattern.mem_flatten_pieces.mp hc).1
    by_cases hunderscore : c = '_'
    · simp only [letter, hunderscore]
      decide
    · simp only [letter, if_neg hunderscore]
      exact ⟨hpattern c hc, hlower c hc, hunderscore⟩
  have htext : IsAscii ((pieces pattern).flatten.map letter) :=
    List.forall_mem_map.mpr fun c hc => (hletter c hc).1
  have hself : Text.lowercase ((pieces pattern).flatten.map letter) =
      (pieces pattern).flatten.map letter := by
    rw [Text.lowercase_of_isAscii htext, List.map_map]
    exact List.map_congr_left fun c hc => (hletter c hc).2.1
  refine ⟨_, htext, ?_, ?_⟩ <;> rw [hself]
  · apply Cut.flatten_map (Pattern.pieces_ne_nil pattern)
    intro c _
    by_cases hunderscore : c = '_'
    · exact .inl hunderscore
    · exact .inr (if_neg hunderscore).symm
  · intro hcut
    have hmem : '_' ∈ (pieces pattern).flatten := Pattern.mem_flatten_pieces.mpr ⟨h, by decide⟩
    obtain ⟨_, hd, rfl⟩ := hcut.exists_spelled hmem
    obtain ⟨c, hc, hcd⟩ := List.mem_map.mp hd
    exact (hletter c hc).2.2 hcd

/-- **SQL and memory agree on a pattern if it has no underscore.** On ASCII texts SQL selects what
memory matches, and nothing else if the value has no underscore; if it has one, there is a text that
only SQL selects. Memory matches a value without a wildcard where the text has it in it. -/
theorem patterns_agree_but_for_underscores {p : Param} {v : ParamValue} (hv : p.value = some v)
    (hascii : IsAscii v.raw.toList) {m : Memory.Predicate}
    (hm : Memory.Predicate.backend.search .like p = .ok m) (table : String) :
    ∃ s, (Sql.Predicate.backend table).search .like p = .ok s ∧
      (∀ db rows row text, field? row p.name = some (.string text) → IsAscii text.toList →
        (m.holds rows row = true → s.eval db (Row.ofJson row) = .true) ∧
        ('_' ∉ v.raw.toList → s.eval db (Row.ofJson row) = .true → m.holds rows row = true) ∧
        (wildcard ∉ v.raw.toList → (m.holds rows row = true ↔
          Text.lowercase v.raw.toList <:+: Text.lowercase text.toList))) ∧
      ('_' ∈ v.raw.toList → ∃ text : String, IsAscii text.toList ∧
        ∀ db rows row, field? row p.name = some (.string text) →
          s.eval db (Row.ofJson row) = .true ∧ m.holds rows row = false) := by
  obtain ⟨hpattern, hlower, hunderscore⟩ := Condition.likePattern_of_isAscii hascii
  have hmemory {rows : List Json} {row : Json} {text : String}
      (hrow : field? row p.name = some (.string text)) (htext : IsAscii text.toList) :
      m.holds rows row = true ↔
        Cut Eq Anything (pieces (Condition.likePattern v.raw)) (Text.lowercase text.toList) := by
    rw [Memory.eq_of_search_like hv hm, Memory.holds_like_string hrow, String.toList_ofList,
      cut_sameLetter_iff hpattern hlower htext]
  refine ⟨_, Backend.search_of_ofParam (Condition.ofParam_like hv), ?_, ?_⟩
  · intro db rows row text hrow htext
    rw [hmemory hrow htext, Sql.eval_like_ofJson db hrow, String.toList_ofList]
    refine ⟨?_, ?_, ?_⟩
    · exact fun h => h.imp (fun _ _ _ _ _ _ => .inr) fun _ _ => id
    · intro hnone h
      refine h.imp (fun piece hpiece c hc d _ hcd => hcd.resolve_left ?_) fun _ _ => id
      rintro rfl
      exact hnone (hunderscore.mp (Pattern.mem_of_mem_pieces hpiece hc))
    · intro hnone
      have hmiddle : wildcard ∉ Text.lowercase v.raw.toList := by
        rwa [Text.Caseless.mem_lowercase_iff (by decide) hascii]
      rw [Condition.likePattern_of_not_mem hascii hnone, Pattern.pieces_between hmiddle,
        Cut.between_iff]
  · intro hsome
    obtain ⟨text, htext, hsql, hnot⟩ :=
      exists_text_of_underscore hpattern hlower (hunderscore.mpr hsome)
    refine ⟨String.ofList text, by rwa [String.toList_ofList], ?_⟩
    intro db rows row hrow
    rw [Sql.eval_like_ofJson db hrow, String.toList_ofList, String.toList_ofList,
      Bool.eq_false_iff, ne_eq, hmemory hrow (by rwa [String.toList_ofList]),
      String.toList_ofList]
    exact ⟨hsql, hnot⟩

/-- An underscore: memory matches the value itself, whatever the case, and SQL selects another text
too. -/
theorem patterns_differ_beside_underscore :
    let p := Param.withCode "a" "like" (.text "X_z")
    let row (text : String) := Json.object [("a", .string text)]
    let db : Sql.Database := fun _ => []
    ∃ m s, Memory.Predicate.backend.search .like p = .ok m ∧
      (Sql.Predicate.backend "rows").search .like p = .ok s ∧
      m.holds [] (row "x_Z") = true ∧ s.eval db (Row.ofJson (row "x_Z")) = .true ∧
      m.holds [] (row "xyz") = false ∧ s.eval db (Row.ofJson (row "xyz")) = .true := by
  intro p row db
  have hv : p.value = some (.text "X_z") := rfl
  obtain ⟨s, hs, hagree, -⟩ := patterns_agree_but_for_underscores hv (by decide)
    ((Memory.search_like hv).trans (if_pos (by decide))) "rows"
  have hsame := hagree db [] (row "x_Z") "x_Z" rfl (by decide)
  have hother := hagree db [] (row "xyz") "xyz" rfl (by decide)
  have hmatch := (hsame.2.2 (by decide)).mpr (by decide)
  refine ⟨_, s, (Memory.search_like hv).trans (if_pos (by decide)), hs, hmatch, hsame.1 hmatch,
    Bool.eq_false_iff.mpr fun h => absurd ((hother.2.2 (by decide)).mp h) (by decide), ?_⟩
  obtain rfl : _ = s := Except.ok.inj
    ((Backend.search_of_ofParam (Condition.ofParam_like hv)).symm.trans hs)
  decide

/-! ### Document stores -/

namespace Document

/-- The settings of a document store's engine under some options. Of the options, `i` and `s` are
read here. -/
def regexMode? (options : List Char) : Option Regex.Mode :=
  options.foldlM (fun mode option =>
    if option = 'i' then some { mode with anyCase := true }
    else if option = 's' then some { mode with dotAll := true }
    else none) { looseEnd := true }

/-- The settings under the options of a filter here. -/
def regexMode : Regex.Mode :=
  { anyCase := true, looseEnd := true }

/-- The filter asks for a regular expression that is found in the text of a field. -/
def MatchesRegex (filter : Json) (field text : String) : Prop :=
  ∃ regex options mode,
    filter = .object [(field, .object [("$regex", .string regex), ("$options", .string options)])] ∧
      regexMode? options.toList = some mode ∧ Regex.Finds mode regex.toList text.toList

theorem matchesRegex_regexTest {field text : String} {regex : List Char} :
    MatchesRegex (regexTest field regex) field text ↔
      Regex.Finds regexMode regex text.toList := by
  have hmode : regexMode? "i".toList = some regexMode := rfl
  constructor
  · rintro ⟨_, _, mode, hfilter, hoptions, h⟩
    simp only [regexTest, Json.object.injEq, List.cons.injEq, Prod.mk.injEq, Json.string.injEq,
      true_and, and_true] at hfilter
    obtain ⟨rfl, rfl⟩ := hfilter
    obtain rfl := Option.some.inj (hmode.symm.trans hoptions)
    rwa [String.toList_ofList] at h
  · exact fun h => ⟨_, _, _, rfl, hmode, by rwa [String.toList_ofList]⟩

/-- No wildcard of a pattern in a document store stands for a line break, and one line break may
follow. -/
theorem finds_regex_iff_cut {pattern text : List Char} :
    Regex.Finds regexMode (Pattern.regex pattern) text ↔
      ∃ body, (text = body ∨ text = body ++ ['\n']) ∧
        Cut SameLetter (· ≠ '\n') (pieces pattern) body := by
  have hfills : Regex.Symbol.dot.Admits regexMode = (· ≠ '\n') := by
    funext c
    simp [Regex.Symbol.Admits, regexMode]
  rw [Regex.finds_regex_iff_of_anyCase rfl, hfills]
  simp only [Regex.Mode.AtEnd, regexMode, true_and]
  constructor
  · rintro ⟨body, tail, rfl, rfl | rfl, h⟩
    · exact ⟨body, .inl (List.append_nil body), h⟩
    · exact ⟨body, .inr rfl, h⟩
  · rintro ⟨body, rfl | rfl, h⟩
    · exact ⟨text, [], by simp, .inl rfl, h⟩
    · exact ⟨body, ['\n'], rfl, .inr rfl, h⟩

/-- Without line breaks in the gaps, the text has those of the pieces and no others. -/
theorem count_newline_of_cut {pieces : List (List Char)} {text : List Char}
    (h : Cut SameLetter (· ≠ '\n') pieces text) :
    text.count '\n' = pieces.flatten.count '\n' := by
  have hpart {piece part : List Char} (h : List.Forall₂ SameLetter piece part) :
      part.count '\n' = piece.count '\n' := by
    induction h with
    | nil => rfl
    | cons hcd _ ih => simp [List.count_cons, ih, hcd.newline_iff]
  induction h with
  | last h => simpa using hpart h
  | cons h hgap _ ih =>
    have hnone := List.count_eq_zero.mpr fun hmem => hgap _ hmem rfl
    simp only [List.count_append, List.flatten_cons, hpart h, hnone, ih, Nat.add_zero]

/-- With two line breaks in a gap, a text fits the pattern that no document store finds. -/
theorem exists_text_of_wildcard {pattern : List Char} (h : wildcard ∈ pattern) :
    ∃ text, Cut SameLetter Anything (pieces pattern) text ∧
      ¬ Regex.Finds regexMode (Pattern.regex pattern) text := by
  obtain ⟨first, rest, hpieces, hne⟩ := Pattern.pieces_of_mem h
  have hfirst : List.Forall₂ SameLetter first first := List.forall₂_same.mpr fun _ _ => rfl
  have hrest : Cut SameLetter Anything rest (rest.flatten.map id) :=
    Cut.flatten_map hne fun _ _ => rfl
  rw [List.map_id] at hrest
  refine ⟨first ++ ['\n', '\n'] ++ rest.flatten, ?_, ?_⟩
  · rw [hpieces]
    exact .cons hfirst (by simp [Anything]) hrest
  · rw [finds_regex_iff_cut, hpieces]
    rintro ⟨body, htext, hcut⟩
    have hcount := count_newline_of_cut hcut
    rcases htext with rfl | htext
    · simp at hcount
      omega
    · have htext := congrArg (List.count '\n') htext
      simp at hcount htext
      omega

end Document

/-- **A document store and memory agree on the texts without line breaks**, for every pattern, and
for no pattern on all texts. -/
theorem patterns_agree_but_for_line_breaks {p : Param} {v : ParamValue} (hv : p.value = some v)
    {m : Memory.Predicate} (hm : Memory.Predicate.backend.search .like p = .ok m) :
    ∃ filter, Document.backend.search .like p = .ok filter ∧
      (∀ rows row text, field? row p.name = some (.string text) → '\n' ∉ text.toList →
        (Document.MatchesRegex filter p.name text ↔ m.holds rows row = true)) ∧
      (∀ text, Document.MatchesRegex filter p.name text ↔
        ∃ body, (text.toList = body ∨ text.toList = body ++ ['\n']) ∧
          Cut SameLetter (· ≠ '\n') (pieces (Condition.likePattern v.raw)) body) ∧
      ∃ text, ∀ rows row, field? row p.name = some (.string text) →
        m.holds rows row = true ∧ ¬ Document.MatchesRegex filter p.name text := by
  have hmemory {rows : List Json} {row : Json} {text : String}
      (hrow : field? row p.name = some (.string text)) :
      m.holds rows row = true ↔
        Cut SameLetter Anything (pieces (Condition.likePattern v.raw)) text.toList := by
    rw [Memory.eq_of_search_like hv hm, Memory.holds_like_string hrow, String.toList_ofList]
  refine ⟨_, Backend.search_of_ofParam (Condition.ofParam_like hv), ?_⟩
  show (∀ rows row text, _ → _ → (Document.MatchesRegex (Document.regexTest _ _) _ _ ↔ _)) ∧
    (∀ text, Document.MatchesRegex (Document.regexTest _ _) _ _ ↔ _) ∧
    ∃ text, ∀ rows row, _ → _ ∧ ¬ Document.MatchesRegex (Document.regexTest _ _) _ _
  simp only [Document.matchesRegex_regexTest, String.toList_ofList]
  refine ⟨?_, fun text => Document.finds_regex_iff_cut, ?_⟩
  · intro rows row text hrow hnone
    rw [hmemory hrow, Document.finds_regex_iff_cut]
    constructor
    · rintro ⟨body, rfl | htext, h⟩
      · exact h.imp (fun _ _ _ _ _ _ => id) fun _ _ _ => trivial
      · exact absurd (by simp [htext]) hnone
    · intro h
      refine ⟨text.toList, .inl rfl, h.imp (fun _ _ _ _ _ _ => id) ?_⟩
      rintro _ hc - rfl
      exact hnone hc
  · obtain ⟨text, hcut, hnot⟩ :=
      Document.exists_text_of_wildcard (Condition.wildcard_mem_likePattern v.raw)
    refine ⟨String.ofList text, fun rows row hrow => ?_⟩
    rw [hmemory hrow, String.toList_ofList]
    exact ⟨hcut, hnot⟩

/-- A value in the second line of a text: memory matches, and a document store does not. -/
theorem patterns_differ_beside_line_break :
    let p := Param.withCode "a" "like" (.text "b")
    let row (text : String) := Json.object [("a", .string text)]
    ∃ m filter, Memory.Predicate.backend.search .like p = .ok m ∧
      Document.backend.search .like p = .ok filter ∧
      m.holds [] (row "xB") = true ∧ Document.MatchesRegex filter "a" "xB" ∧
      m.holds [] (row "x\nB") = true ∧ ¬ Document.MatchesRegex filter "a" "x\nB" := by
  intro p row
  have hv : p.value = some (.text "b") := rfl
  have hm := (Memory.search_like hv).trans (if_pos (by decide))
  obtain ⟨filter, hfilter, hagree, hbody, -⟩ := patterns_agree_but_for_line_breaks hv hm
  have hmatch : ∀ text ∈ ["xB", "x\nB"], (Memory.Predicate.condition
      (.like p.name (String.ofList (Condition.likePattern "b")))).holds [] (row text) = true := by
    intro text htext
    rw [Memory.holds_like_string rfl]
    revert text
    decide
  refine ⟨_, filter, hm, hfilter, hmatch _ (by simp), ?_, hmatch _ (by simp), ?_⟩
  · exact (hagree [] (row "xB") "xB" rfl (by decide)).mpr (hmatch _ (by simp))
  · intro hmatches
    obtain ⟨body, htext | htext, hcut⟩ := (hbody "x\nB").mp hmatches
    · have hcount := Document.count_newline_of_cut hcut
      rw [← htext] at hcount
      exact absurd hcount (by decide)
    · have hlast := congrArg List.getLast? htext
      simp at hlast

end FilterQuery
