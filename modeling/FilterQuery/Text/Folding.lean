import FilterQuery.Text.FoldingTable

/-!
# Characters that differ in case alone

Two characters count as the same letter when simple case folding sends them to one character.
-/

namespace FilterQuery.Text

/-- The simple case folding of a character. -/
def fold (c : Char) : Char :=
  if c.toNat < 0x80 then c.toLower
  else match CaseRun.image? foldingRuns c.toNat with
    | some n => Char.ofNat n
    | none => c

end FilterQuery.Text
