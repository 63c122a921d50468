import FilterQuery.Proofs.Agreement.Flat
import FilterQuery.Proofs.Memory.Patterns
import FilterQuery.Proofs.Sql.Like

/-!
# Memory and SQL agree on tokens

To look for the tokens of a list, memory searches the text for each of them, and SQL is given one
`LIKE` for each, escaped and between wildcards. A text fits such a pattern if the token occurs in it
(`Sql.eval_tokenLike`). SQL has a form of its own for no token and for a single one, and still the
answer is that of a conjunction (`Sql.eval_contains`), so the backends agree on every text
(`contains_agrees_with_escaped_like`).
-/

namespace FilterQuery

open Memory (field?)
open Sql (LikeReads Row Truth escapeLike likeEscape likeFits likeParts?)

/-! ### SQL -/

namespace Sql

/-- The predicate for one token. -/
def tokenLike (field token : String) : Predicate :=
  .like field (String.ofList ('%' :: escapeLike token.toList ++ ['%'])) true

/-- The answer for a token: whether it occurs in the text in lower case. -/
theorem eval_tokenLike {field text : String} (token : String) (db : Database) {row : Row}
    (h : row field = .string text) :
    (tokenLike field token).eval db row =
      .ofBool (Pattern.occursIn token.toList (Text.lowercase text.toList)) := by
  rw [tokenLike, Predicate.eval, h, Value.likeLower, if_pos rfl, String.toList_ofList,
    likeParts?_between]
  refine congrArg Truth.ofBool (Bool.eq_iff_iff.mpr ?_)
  rw [likeFits_between_iff, Pattern.occursIn_iff]

theorem Truth.and_true (t : Truth) : t.and .true = t := by
  cases t <;> rfl

/-- However many tokens there are, the answer is that of the conjunction. -/
theorem eval_contains (field : String) (tokens : List String) (db : Database) (row : Row) :
    (Predicate.ofCondition (.contains field tokens)).eval db row =
      Predicate.evalAll db row (tokens.map (tokenLike field)) := by
  match tokens with
  | [] => rfl
  | [token] => exact (Truth.and_true _).symm
  | _ :: _ :: _ => rfl

/-- A conjunction of decided predicates is decided. -/
theorem evalAll_map_of_decided {α : Type} {f : α → Predicate} {test : α → Bool}
    {db : Database} {row : Row} (h : ∀ x, (f x).eval db row = .ofBool (test x)) (xs : List α) :
    Predicate.evalAll db row (xs.map f) = .ofBool (xs.all test) := by
  induction xs with
  | nil => rfl
  | cons x xs ih =>
    rw [List.map_cons, Predicate.evalAll, h, ih, List.all_cons]
    cases test x <;> cases xs.all test <;> rfl

end Sql

/-! ### Parameters -/

theorem Backend.search_contains_of_none {F : Type} (b : Backend F) {p : Param}
    (h : p.value = none) : b.search .contains p = .error (.missingValue p.name) := by
  rw [search, Condition.ofParam, Condition.requiredValue, h]
  rfl

/-- **An escaped token between wildcards fits the texts with the token in them**, so SQL and memory
give the same answer to every list of tokens on every text. -/
theorem contains_agrees_with_escaped_like :
    (∀ token : List Char, ∃ parts,
      likeParts? (some likeEscape) ('%' :: escapeLike token ++ ['%']) = some parts ∧
      (∀ parts', LikeReads likeEscape ('%' :: escapeLike token ++ ['%']) parts' ↔
        parts' = parts) ∧
      ∀ text, likeFits parts text = true ↔ token <:+: text) ∧
    ∀ (p : Param) (table : String),
      (p.value = none →
        Memory.Predicate.backend.search .contains p = .error (.missingValue p.name) ∧
        (Sql.Predicate.backend table).search .contains p = .error (.missingValue p.name)) ∧
      ∀ v, p.value = some v → ∃ m s,
        Memory.Predicate.backend.search .contains p = .ok m ∧
        (Sql.Predicate.backend table).search .contains p = .ok s ∧
        ∀ db rows row text, field? row p.name = some (.string text) →
          s.eval db (Row.ofJson row) = .ofBool (m.holds rows row) := by
  constructor
  · intro token
    have hparts := Sql.likeParts?_between token
    have hreads := Sql.likeReads_of_likeParts? hparts
    exact ⟨_, hparts, fun _ => ⟨fun h => h.unique hreads, fun h => h ▸ hreads⟩,
      fun _ => Sql.likeFits_between_iff⟩
  · intro p table
    refine ⟨fun hnone => ⟨Backend.search_contains_of_none _ hnone,
      Backend.search_contains_of_none _ hnone⟩, fun v hv => ?_⟩
    refine ⟨_, _, Memory.search_contains hv,
      Backend.search_of_ofParam (Condition.ofParam_contains hv), ?_⟩
    intro db rows row text hrow
    have htext : Row.ofJson row p.name = .string text := Row.ofJson_of_stored hrow
    rw [Sql.eval_contains, Memory.holds_contains _ rows hrow]
    exact Sql.evalAll_map_of_decided (fun token => Sql.eval_tokenLike token db htext) _

/-- Wildcards and the escape character in the tokens: they stand for themselves in both backends. -/
theorem contains_agrees_with_escaped_like_beside_wildcards :
    let p := Param.withCode "a" "contains" (.text "50%, _\\")
    let row (text : String) := Json.object [("a", .string text)]
    let db : Sql.Database := fun _ => []
    ∃ m s, Memory.Predicate.backend.search .contains p = .ok m ∧
      (Sql.Predicate.backend "rows").search .contains p = .ok s ∧
      m.holds [] (row "A_\\50%") = true ∧ s.eval db (Row.ofJson (row "A_\\50%")) = .true ∧
      m.holds [] (row "A_x50%") = false ∧ s.eval db (Row.ofJson (row "A_x50%")) = .false := by
  intro p row db
  have hv : p.value = some (.text "50%, _\\") := rfl
  have hrow (text : String) : field? (row text) p.name = some (.string text) := rfl
  obtain ⟨m, s, hm, hs, hagree⟩ := (contains_agrees_with_escaped_like.2 p "rows").2 _ hv
  obtain rfl := Except.ok.inj (hm.symm.trans (Memory.search_contains hv))
  have hholds (text : String) :=
    Memory.holds_containsTokens (ParamValue.text "50%, _\\").raw [] (hrow text)
  have hsql (text : String) := hagree db [] _ _ (hrow text)
  refine ⟨_, s, hm, hs, ?_, ?_, ?_, ?_⟩
  · rw [hholds]
    decide +kernel
  · rw [hsql, hholds]
    decide +kernel
  · rw [hholds]
    decide +kernel
  · rw [hsql, hholds]
    decide +kernel

end FilterQuery
