/-!
# Double precision numbers

A number of the IEEE format `binary64` is kept as its sign and its *ordinal*: its place among the
magnitudes of the format in increasing order, which is also its bit pattern without the sign.
Comparing numbers is then comparing integers, and the neighbour of a number is the next ordinal.

The magnitude with ordinal `o` is `Binary64.units o` times `2 ^ (-1074)`, the smallest positive
number of the format.
-/

namespace FilterQuery

/-- The ordinal of infinity, one past the greatest finite magnitude. -/
def infinityOrdinal : Nat := 0x7FF0000000000000

/-- A double precision number. Every not-a-number is the same. -/
inductive Binary64 where
  | nan
  /-- The number with a sign and the ordinal of its magnitude. Zero has either sign. -/
  | number (negative : Bool) (ordinal : Nat) (within : ordinal ≤ infinityOrdinal)
deriving DecidableEq

namespace Binary64

/-- The number with this sign and ordinal; beyond infinity there is only infinity. -/
def ofOrdinal (negative : Bool) (ordinal : Nat) : Binary64 :=
  .number negative (min ordinal infinityOrdinal) (Nat.min_le_right ..)

/-- Positive or negative infinity. -/
def infinity (negative : Bool) : Binary64 :=
  ofOrdinal negative infinityOrdinal

instance : Inhabited Binary64 := ⟨ofOrdinal false 0⟩

/-- Whether this is a number of finite magnitude. -/
def isFinite : Binary64 → Bool
  | .nan => false
  | .number _ ordinal _ => ordinal < infinityOrdinal

/-! ### Magnitudes -/

/-- How many magnitudes there are from one power of two up to the next: `2 ^ 52`. -/
def binade : Nat := 0x10000000000000

/-- How many of the smallest positive magnitude make one: `2 ^ 1074`. -/
def unitsPerOne : Nat := Nat.pow 2 1074

/-- The integer significand of the magnitude with an ordinal. -/
def significand (ordinal : Nat) : Nat :=
  if ordinal < binade then ordinal else binade + ordinal % binade

/-- How often the significand of an ordinal is doubled, in units of the smallest magnitude. -/
def doublings (ordinal : Nat) : Nat :=
  ordinal / binade - 1

/-- The magnitude with an ordinal, counted in the smallest positive magnitude. -/
def units (ordinal : Nat) : Nat :=
  significand ordinal * Nat.pow 2 (doublings ordinal)

/-! ### Order -/

/-- The place of a number on the number line, both zeros at `0`. -/
def place (negative : Bool) (ordinal : Nat) : Int :=
  if negative then -(ordinal : Int) else ordinal

/-- The numeric order. Not-a-number is not comparable, and both zeros are equal. -/
def compare? : Binary64 → Binary64 → Option Ordering
  | .number s a _, .number t b _ => some (compare (place s a) (place t b))
  | _, _ => none

/-- The place of a number in the total order, which has negative zero before positive zero and
not-a-number above all numbers. -/
def rank : Binary64 → Int
  | .nan => infinityOrdinal + 1
  | .number true ordinal _ => -(ordinal : Int) - 1
  | .number false ordinal _ => ordinal

/-- Numeric equality: not-a-number differs from itself, and the zeros are equal. -/
def agrees (x y : Binary64) : Bool :=
  x.compare? y == some .eq

/-! ### Rounding -/

/-- A quotient rounded to the nearest integer, and to the even one of two that are equally near. -/
def roundHalfEven (num den : Nat) : Nat :=
  let q := num / den
  let r := num % den
  if 2 * r < den then q
  else if den < 2 * r then q + 1
  else q + q % 2

/-- The ordinal of the magnitude nearest to `num / den`, the even one of two that are equally near.
The significand is given 53 bits, or as many as there are above the smallest magnitude. -/
def nearestOrdinal (num den : Nat) : Nat :=
  let scaled := num * unitsPerOne
  let shift := (scaled / den).log2 - 52
  shift * binade + roundHalfEven scaled (den * Nat.pow 2 shift)

/-- The number nearest to an integer. -/
def ofInt (i : Int) : Binary64 :=
  ofOrdinal (i < 0) (nearestOrdinal i.natAbs 1)

/-- The number nearest to `coefficient * 10 ^ exponent`. Exponents far beyond the format are
settled without raising ten to them. -/
def ofDecimal (negative : Bool) (coefficient : Nat) (exponent : Int) : Binary64 :=
  let leading := (Nat.toDigits 10 coefficient).length + exponent
  if coefficient = 0 ∨ leading < -330 then ofOrdinal negative 0
  else if 310 < leading then infinity negative
  else if 0 ≤ exponent then
    ofOrdinal negative (nearestOrdinal (coefficient * Nat.pow 10 exponent.toNat) 1)
  else
    ofOrdinal negative (nearestOrdinal coefficient (Nat.pow 10 (-exponent).toNat))

end Binary64

end FilterQuery
