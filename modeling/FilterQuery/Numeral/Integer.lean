/-!
# Integers in text

An integer is written as an optional sign and one or more ASCII digits. Two widths occur: *longs*,
the 64-bit signed integers that conditions compare, and *counts*, the natural numbers that a page
is made of, each with a greatest value.
-/

namespace FilterQuery.Numeral

/-- Whether an integer fits 64 bits with a sign. -/
def isLong (i : Int) : Bool :=
  -0x8000000000000000 ≤ i && i < 0x8000000000000000

/-- The greatest row limit. -/
def limitMax : Nat := 0xFFFFFFFF

/-- The greatest 64-bit count. -/
def countMax : Nat := 0xFFFFFFFFFFFFFFFF

/-- Reads one or more digits. -/
def digits? (cs : List Char) : Option Nat :=
  if cs ≠ [] ∧ cs.all Char.isDigit then some (Nat.ofDigitChars 10 cs 0) else none

/-- Reads digits after an optional sign. -/
def integer? : List Char → Option Int
  | '-' :: cs => (digits? cs).map fun n => -(n : Int)
  | '+' :: cs => (digits? cs).map fun n => (n : Int)
  | cs => (digits? cs).map fun n => (n : Int)

/-- Reads a long; a value out of range is no long. -/
def long? (s : String) : Option Int :=
  (integer? s.toList).filter isLong

/-- Reads a count of at most 64 bits. A plus sign is allowed, a minus sign is not. -/
def count? (cs : List Char) : Option Nat :=
  let read := match cs with
    | '+' :: cs => digits? cs
    | cs => digits? cs
  read.filter (· ≤ countMax)

end FilterQuery.Numeral
