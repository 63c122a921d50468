/-!
# Runs of a case mapping

A case mapping of Unicode is kept as a list of *runs*: code points at a fixed stride that all move
by the same distance. `CaseRun.image?` reads such a list.
-/

namespace FilterQuery.Text

/-- The code points `first`, `first + stride`, … up to `last`, mapped in step to `image`,
`image + stride`, …. -/
structure CaseRun where
  first : Nat
  last : Nat
  /-- The distance between neighbours: `2` where upper and lower case alternate. -/
  stride : Nat
  /-- What `first` is mapped to. -/
  image : Nat
deriving Repr

/-- Whether the run maps the code point `n`. -/
def CaseRun.covers (run : CaseRun) (n : Nat) : Bool :=
  run.first ≤ n && n ≤ run.last && (n - run.first) % run.stride == 0

/-- The image of the code point `n` under the first run that covers it. -/
def CaseRun.image? (runs : List CaseRun) (n : Nat) : Option Nat :=
  (runs.find? (·.covers n)).map fun run => run.image + (n - run.first)

/-- Whether the code point `n` lies in one of the closed ranges. -/
def inRanges (ranges : List (Nat × Nat)) (n : Nat) : Bool :=
  ranges.any fun range => range.1 ≤ n && n ≤ range.2

end FilterQuery.Text
