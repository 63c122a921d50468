import FilterQuery.Text.LowercaseTable

/-!
# Lower case

The full lower-case mapping of Unicode, without a locale. All characters but two map on their own;
the exceptions are

* `İ`, which becomes `i` and a combining dot, so that a text can grow, and
* `Σ`, which becomes `ς` at the end of a word and `σ` elsewhere, so that the lower case of a part
  need not be a part of the lower case.
-/

namespace FilterQuery.Text

/-- Whether a character has a case. -/
def isCased (c : Char) : Bool :=
  inRanges casedRanges c.toNat

/-- Whether a character is passed over in the search for a cased neighbour. -/
def isCaseIgnorable (c : Char) : Bool :=
  inRanges caseIgnorableRanges c.toNat

/-- The lower-case form of one character, wherever it stands. -/
def lowercaseChar (c : Char) : List Char :=
  if c.toNat < 0x80 then [c.toLower]
  else if c = '\u0130' then ['i', '\u0307']
  else match CaseRun.image? lowercaseRuns c.toNat with
    | some n => [Char.ofNat n]
    | none => [c]

/-- Whether the first character that is not passed over is cased. -/
def meetsCased (cs : List Char) : Bool :=
  match cs.dropWhile isCaseIgnorable with
  | [] => false
  | c :: _ => isCased c

/-- The lower case of `rest`, where `before` holds the characters ahead of it, nearest first. A
sigma ends a word if a cased character comes before it and none after it. -/
def lowercaseFrom (before : List Char) : (rest : List Char) → List Char
  | [] => []
  | c :: rest =>
    (if c = 'Σ' then [if meetsCased before && !meetsCased rest then 'ς' else 'σ']
      else lowercaseChar c) ++ lowercaseFrom (c :: before) rest

/-- The lower case of a text. -/
def lowercase (cs : List Char) : List Char :=
  lowercaseFrom [] cs

end FilterQuery.Text
