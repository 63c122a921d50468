import FilterQuery.Proofs.Engine.Outcome
import FilterQuery.SortSpecification

/-!
# The grammar of sort specifications

What counts of a specification is its text without blanks (`visible`). The text is read as tokens
between commas, each of which must spell a sort key (`Spells`): a name of ASCII letters, after one
minus sign if the order is to be descending. So the tokens of a specification have one reading at
most (`forall₂_spells_iff`), and writing it down gives the text back (`toList_ofKeys`).

Only when every token spells a key are the fields looked up. So a token that spells none is reported
whatever is allowed, with all the tokens, and otherwise the first field that is not allowed.
-/

namespace FilterQuery.SortSpecification

/-! ### Tokens -/

/-- A name: ASCII letters, and one of them at least. -/
def IsName (name : List Char) : Prop :=
  name ≠ [] ∧ ∀ c ∈ name, 'a' ≤ c ∧ c ≤ 'z' ∨ 'A' ≤ c ∧ c ≤ 'Z'

/-- How a sort key is written. -/
def written (key : SortKey) : List Char :=
  match key.direction with
  | .ascending => key.field.toList
  | .descending => '-' :: key.field.toList

/-- A token is a sort key in writing. -/
def Spells (token : List Char) (key : SortKey) : Prop :=
  IsName key.field.toList ∧ token = written key

theorem isAlpha_iff {c : Char} :
    c.isAlpha = true ↔ 'a' ≤ c ∧ c ≤ 'z' ∨ 'A' ≤ c ∧ c ≤ 'Z' := by
  have hupper : c.isUpper = true ↔ 'A' ≤ c ∧ c ≤ 'Z' := decide_eq_true_iff
  have hlower : c.isLower = true ↔ 'a' ≤ c ∧ c ≤ 'z' :=
    Bool.and_eq_true_iff.trans (and_congr decide_eq_true_iff decide_eq_true_iff)
  calc c.isAlpha = true ↔ c.isUpper = true ∨ c.isLower = true := Bool.or_eq_true_iff
    _ ↔ 'a' ≤ c ∧ c ≤ 'z' ∨ 'A' ≤ c ∧ c ≤ 'Z' := by rw [hupper, hlower, or_comm]

theorem isName_iff {name : List Char} :
    IsName name ↔ name ≠ [] ∧ name.all Char.isAlpha = true := by
  simp only [IsName, List.all_eq_true, isAlpha_iff]

/-- A token with a minus sign in front. -/
theorem isToken_marked {name : List Char} : isToken ('-' :: name) = true ↔ IsName name := by
  rw [isName_iff]
  simp [isToken]

/-- A token without one. -/
theorem isToken_plain {token : List Char} (h : ∀ name, token ≠ '-' :: name) :
    (isToken token = true ↔ IsName token) ∧
      tokenKey token = ⟨String.ofList token, .ascending⟩ := by
  rw [isName_iff, isToken, tokenKey]
  · simp
  · exact h
  · exact h

theorem IsName.ne_marked {name : List Char} (h : IsName name) (rest : List Char) :
    name ≠ '-' :: rest := by
  rintro rfl
  exact absurd (h.2 '-' (by simp)) (by decide)

/-- **A token spells the key it stands for, or none.** -/
theorem spells_iff {token : List Char} {key : SortKey} :
    Spells token key ↔ isToken token = true ∧ tokenKey token = key := by
  constructor
  · rintro ⟨hname, rfl⟩
    obtain ⟨field, direction⟩ := key
    cases direction with
    | ascending =>
      obtain ⟨htoken, hkey⟩ := isToken_plain hname.ne_marked
      exact ⟨htoken.mpr hname, by rw [written, hkey, String.ofList_toList]⟩
    | descending =>
      exact ⟨isToken_marked.mpr hname, by rw [written, tokenKey, String.ofList_toList]⟩
  · rintro ⟨htoken, rfl⟩
    by_cases hmarked : ∃ name, token = '-' :: name
    · obtain ⟨name, rfl⟩ := hmarked
      rw [Spells, tokenKey, written, String.toList_ofList]
      exact ⟨isToken_marked.mp htoken, rfl⟩
    · obtain ⟨hiff, hkey⟩ := isToken_plain (not_exists.mp hmarked)
      rw [Spells, hkey, written, String.toList_ofList]
      exact ⟨hiff.mp htoken, rfl⟩

/-- **A list of tokens has one reading at most.** -/
theorem forall₂_spells_iff {tokens : List (List Char)} {keys : List SortKey} :
    List.Forall₂ Spells tokens keys ↔
      tokens.all isToken = true ∧ tokens.map tokenKey = keys := by
  induction tokens generalizing keys with
  | nil => simp [eq_comm]
  | cons token tokens ih =>
    rw [List.forall₂_cons_left_iff]
    simp only [ih, spells_iff, List.all_cons, Bool.and_eq_true, List.map_cons]
    constructor
    · rintro ⟨_, _, ⟨htoken, rfl⟩, ⟨htokens, rfl⟩, rfl⟩
      exact ⟨⟨htoken, htokens⟩, rfl⟩
    · rintro ⟨⟨htoken, htokens⟩, rfl⟩
      exact ⟨_, _, ⟨htoken, rfl⟩, ⟨htokens, rfl⟩, rfl⟩

theorem exists_not_isToken_iff {tokens : List (List Char)} :
    (∃ token ∈ tokens, ∀ key, ¬ Spells token key) ↔ ¬ tokens.all isToken = true := by
  simp [spells_iff]

theorem map_written {tokens : List (List Char)} {keys : List SortKey}
    (h : List.Forall₂ Spells tokens keys) : keys.map written = tokens := by
  induction h with
  | nil => rfl
  | cons hkey _ ih => rw [List.map_cons, ih, ← hkey.2]

/-- **Keys are written down as the text they were read from.** -/
theorem toList_ofKeys {text : List Char} {keys : List SortKey}
    (h : List.Forall₂ Spells (tokens text) keys) : (ofKeys keys).toList = text :=
  calc (ofKeys keys).toList
      = [','].intercalate (keys.map written) := by
        rw [ofKeys, String.toList_intercalate, List.map_map]
        refine congrArg _ (List.map_congr_left fun key _ => ?_)
        obtain ⟨field, direction⟩ := key
        cases direction with
        | ascending => rfl
        | descending => simp [written]
    _ = [','].intercalate (tokens text) := by rw [map_written h]
    _ = text := List.intercalate_splitOn ','

/-! ### Fields -/

theorem allowedKey_eq_ok {allowed : List String} {token : List Char} {key : SortKey} :
    allowedKey allowed token = .ok key ↔ tokenKey token = key ∧ key.field ∈ allowed := by
  simp only [allowedKey, List.contains_iff_mem]
  split
  · next hfield =>
    rw [Except.ok.injEq]
    exact ⟨fun h => ⟨h, h ▸ hfield⟩, And.left⟩
  · next hfield =>
    refine iff_of_false (by simp) ?_
    rintro ⟨rfl, h⟩
    exact hfield h

theorem allowedKey_eq_error {allowed : List String} {token : List Char} {e : FilterError} :
    allowedKey allowed token = .error e ↔
      (tokenKey token).field ∉ allowed ∧ e = .unknownField (tokenKey token).field := by
  simp only [allowedKey, List.contains_iff_mem]
  split
  · next hfield => exact iff_of_false (by simp) fun h => h.1 hfield
  · next hfield => simp [hfield, eq_comm]

theorem mapM_allowedKey_eq_ok {allowed : List String} {tokens : List (List Char)}
    {keys : List SortKey} :
    tokens.mapM (allowedKey allowed) = .ok keys ↔
      tokens.map tokenKey = keys ∧ ∀ key ∈ keys, key.field ∈ allowed := by
  induction tokens generalizing keys with
  | nil =>
    constructor
    · intro h
      obtain rfl := Except.ok.inj h
      exact ⟨rfl, by simp⟩
    · rintro ⟨rfl, -⟩
      rfl
  | cons token tokens ih =>
    simp only [mapM_cons_eq_ok, allowedKey_eq_ok, ih]
    constructor
    · rintro ⟨_, _, ⟨rfl, hfield⟩, ⟨rfl, hfields⟩, rfl⟩
      exact ⟨rfl, List.forall_mem_cons.mpr ⟨hfield, hfields⟩⟩
    · rintro ⟨rfl, h⟩
      obtain ⟨hfield, hfields⟩ := List.forall_mem_cons.mp h
      exact ⟨_, _, ⟨rfl, hfield⟩, ⟨rfl, hfields⟩, rfl⟩

/-- The first field that is not allowed is reported. -/
theorem mapM_allowedKey_eq_error {allowed : List String} {tokens : List (List Char)}
    {e : FilterError} :
    tokens.mapM (allowedKey allowed) = .error e ↔
      ∃ before key after, tokens.map tokenKey = before ++ key :: after ∧
        (∀ k ∈ before, k.field ∈ allowed) ∧ key.field ∉ allowed ∧ e = .unknownField key.field := by
  simp only [mapM_eq_error, allowedKey_eq_ok, allowedKey_eq_error]
  constructor
  · rintro ⟨before, token, after, rfl, hbefore, hfield, rfl⟩
    refine ⟨before.map tokenKey, tokenKey token, after.map tokenKey, by simp, ?_, hfield, rfl⟩
    intro k hk
    obtain ⟨t, ht, rfl⟩ := List.mem_map.mp hk
    obtain ⟨_, rfl, h⟩ := hbefore t ht
    exact h
  · rintro ⟨_, _, _, hkeys, hbefore, hfield, rfl⟩
    obtain ⟨before, rest, rfl, rfl, hrest⟩ := List.map_eq_append_iff.mp hkeys
    obtain ⟨token, after, rfl, rfl, rfl⟩ := List.map_eq_cons_iff.mp hrest
    exact ⟨before, token, after, rfl,
      fun t ht => ⟨_, rfl, hbefore _ (List.mem_map_of_mem ht)⟩, hfield, rfl⟩

/-! ### Specifications -/

/-- What counts of a specification: its characters but the blanks. -/
def visible (spec : String) : List Char :=
  spec.toList.filter fun c => !Text.isBlank c

theorem visible_append (s t : String) : visible (s ++ t) = visible s ++ visible t := by
  rw [visible, String.toList_append, List.filter_append, visible, visible]

theorem visible_of_isAllBlank {s : String} (h : Text.isAllBlank s = true) : visible s = [] := by
  rw [visible, List.filter_eq_nil_iff]
  simpa [Text.isAllBlank] using h

section

variable {allowed : List String} {spec : Option String}

/-- A blank text has one token, and that is empty. -/
theorem not_forall₂_spells_nil {keys : List SortKey} :
    ¬ List.Forall₂ Spells (tokens []) keys := by
  have htokens : (tokens []).all isToken = false := by decide
  rw [forall₂_spells_iff, htokens]
  exact fun h => nomatch h.1

/-- Only the visible text counts. Outside the grammar no field is looked up. -/
theorem resolve_eq (allowed : List String) (spec : Option String) :
    resolve allowed spec =
      let text := visible (spec.getD "")
      if text = [] then .ok []
      else if (tokens text).all isToken then (tokens text).mapM (allowedKey allowed)
      else .error (.invalidTokens ((tokens text).map String.ofList)) := rfl

/-- **When a specification is resolved, and to what.** -/
theorem resolve_eq_ok {keys : List SortKey} :
    resolve allowed spec = .ok keys ↔
      visible (spec.getD "") = [] ∧ keys = [] ∨
        List.Forall₂ Spells (tokens (visible (spec.getD ""))) keys ∧
          ∀ key ∈ keys, key.field ∈ allowed := by
  rw [resolve_eq]
  generalize visible (spec.getD "") = text
  by_cases hblank : text = []
  · subst hblank
    simp [not_forall₂_spells_nil, eq_comm]
  · rw [forall₂_spells_iff]
    by_cases htokens : (tokens text).all isToken = true
    · simp [hblank, htokens, mapM_allowedKey_eq_ok]
    · simp [hblank, htokens]

/-- **When it is refused, and why.** -/
theorem resolve_eq_error {e : FilterError} :
    resolve allowed spec = .error e ↔
      (visible (spec.getD "") ≠ [] ∧
        (∃ token ∈ tokens (visible (spec.getD "")), ∀ key, ¬ Spells token key) ∧
        e = .invalidTokens ((tokens (visible (spec.getD ""))).map String.ofList)) ∨
      ∃ before key after,
        List.Forall₂ Spells (tokens (visible (spec.getD ""))) (before ++ key :: after) ∧
          (∀ k ∈ before, k.field ∈ allowed) ∧ key.field ∉ allowed ∧
          e = .unknownField key.field := by
  rw [resolve_eq]
  generalize visible (spec.getD "") = text
  by_cases hblank : text = []
  · subst hblank
    simp [not_forall₂_spells_nil]
  · simp only [exists_not_isToken_iff, forall₂_spells_iff]
    by_cases htokens : (tokens text).all isToken = true
    · simp [hblank, htokens, mapM_allowedKey_eq_error]
    · simp [hblank, htokens, eq_comm]

/-- Blanks count nowhere. -/
theorem resolve_insert_blanks (before after : String) {blanks : String}
    (h : Text.isAllBlank blanks = true) :
    resolve allowed (some (before ++ blanks ++ after)) =
      resolve allowed (some (before ++ after)) := by
  have hvisible : visible (before ++ blanks ++ after) = visible (before ++ after) := by
    rw [visible_append, visible_append, visible_append, visible_of_isAllBlank h, List.append_nil]
  rw [resolve_eq, resolve_eq, Option.getD_some, Option.getD_some, hvisible]

end

/-- **A specification is resolved if and only if it is in the grammar.** -/
theorem specifications_read_their_grammar (allowed : List String) (spec : Option String) :
    let text := visible (spec.getD "")
    let tokens := text.splitOn ','
    (∀ keys, resolve allowed spec = .ok keys ↔
      text = [] ∧ keys = [] ∨
        List.Forall₂ Spells tokens keys ∧ ∀ key ∈ keys, key.field ∈ allowed) ∧
    (∀ keys, resolve allowed spec = .ok keys → (ofKeys keys).toList = text) ∧
    (∀ listed, resolve allowed spec = .error (.invalidTokens listed) ↔
      text ≠ [] ∧ (∃ token ∈ tokens, ∀ key, ¬ Spells token key) ∧
        listed = tokens.map String.ofList) ∧
    (∀ field, resolve allowed spec = .error (.unknownField field) ↔
      ∃ before key after, List.Forall₂ Spells tokens (before ++ key :: after) ∧
        (∀ k ∈ before, k.field ∈ allowed) ∧ key.field ∉ allowed ∧ field = key.field) ∧
    (∀ e, resolve allowed spec = .error e →
      (∃ listed, e = .invalidTokens listed) ∨ ∃ field, e = .unknownField field) ∧
    ∀ before blanks after, Text.isAllBlank blanks = true →
      resolve allowed (some (before ++ blanks ++ after)) =
        resolve allowed (some (before ++ after)) := by
  intro text tokens
  refine ⟨fun keys => resolve_eq_ok, ?_, ?_, ?_, ?_, ?_⟩
  · intro keys h
    rcases resolve_eq_ok.mp h with ⟨htext, rfl⟩ | ⟨hkeys, -⟩
    · exact htext.symm
    · exact toList_ofKeys hkeys
  · intro listed
    rw [resolve_eq_error]
    simp [text, tokens, SortSpecification.tokens]
  · intro field
    rw [resolve_eq_error]
    simp [text, tokens, SortSpecification.tokens]
  · intro e h
    rcases resolve_eq_error.mp h with ⟨-, -, rfl⟩ | ⟨_, key, _, -, -, -, rfl⟩
    · exact .inl ⟨_, rfl⟩
    · exact .inr ⟨key.field, rfl⟩
  · exact fun before blanks after h => resolve_insert_blanks before after h

/-- Blanks within names, a comma at the end, and a name that is not allowed. -/
theorem specifications_read_their_grammar_despite_blanks :
    (∃ keys, resolve ["id", "name"] (some " - id ,\tna me") = .ok keys ∧
      (ofKeys keys).toList = "-id,name".toList) ∧
    resolve ["id"] (some "name,-id,") = .error (.invalidTokens ["name", "-id", ""]) ∧
    resolve ["id"] (some ("-id,-na" ++ "\u3000" ++ "me")) = .error (.unknownField "name") := by
  obtain ⟨hok, hback, -⟩ :=
    specifications_read_their_grammar ["id", "name"] (some " - id ,\tna me")
  obtain ⟨-, -, hinvalid, -⟩ := specifications_read_their_grammar ["id"] (some "name,-id,")
  obtain ⟨-, -, -, hunknown, -, hblanks⟩ :=
    specifications_read_their_grammar ["id"] (some ("-id,-na" ++ "me"))
  have hkeys := (hok [⟨"id", .descending⟩, ⟨"name", .ascending⟩]).mpr
    (.inr ⟨forall₂_spells_iff.mpr (by decide), by decide⟩)
  refine ⟨⟨_, hkeys, hback _ hkeys⟩, ?_, ?_⟩
  · exact (hinvalid _).mpr ⟨by decide, exists_not_isToken_iff.mpr (by decide), by decide⟩
  · rw [hblanks "-id,-na" "\u3000" "me" (by decide)]
    exact (hunknown _).mpr ⟨[⟨"id", .descending⟩], ⟨"name", .descending⟩, [],
      forall₂_spells_iff.mpr (by decide), by decide, by decide, rfl⟩

end FilterQuery.SortSpecification
