import FilterQuery.Numeral.Binary64

/-!
# The fewest digits that read back

A finite number other than zero is shown by the shortest decimal that reads back as that number,
and by the nearest such decimal where several are equally short. The search is exact: grids of one,
two, … digits are tried in turn, and on each grid only the two neighbours of the number can hit.
-/

namespace FilterQuery.Numeral

/-- The decimal `coefficient * 10 ^ exponent`. -/
structure Decimal where
  coefficient : Nat
  exponent : Int
deriving DecidableEq, Repr

/-- Which of two equally near decimals is taken. -/
inductive Tie where
  | toEven
  | up
deriving DecidableEq, Repr

open Binary64

/-- Whether `coefficient * 10 ^ exponent` lies among the reals that round to the magnitude of an
ordinal: from halfway to the magnitude below up to halfway to the one above, ends included if the
ordinal is even. Both sides are scaled to integers. -/
def readsBack (ordinal : Nat) (d : Decimal) : Bool :=
  let low := units (ordinal - 1) + units ordinal
  let high := units ordinal + units (ordinal + 1)
  let up := Nat.pow 10 d.exponent.toNat
  let down := Nat.pow 10 (-d.exponent).toNat
  let value := d.coefficient * up * (2 * unitsPerOne)
  if ordinal % 2 = 0 then low * down ≤ value && value ≤ high * down
  else low * down < value && value < high * down

/-- The number of digits before the decimal point of a positive magnitude; zero or negative when
the magnitude begins after the point. -/
def leadingPlace (ordinal : Nat) : Int :=
  let num := units ordinal
  if unitsPerOne ≤ num then (Nat.toDigits 10 (num / unitsPerOne)).length
  else 1 - ((Nat.toDigits 10 ((unitsPerOne + num - 1) / num - 1)).length : Int)

/-- The shortest decimal among those of `count` digits and more. The number of digits still to be
tried bounds the search; seventeen always suffice. -/
def shortestFrom (tie : Tie) (ordinal : Nat) (place : Int) : (tries count : Nat) → Decimal
  | 0, _ => ⟨units ordinal, -1074⟩
  | tries + 1, count =>
    let exponent := place - count
    let num := units ordinal * Nat.pow 10 (-exponent).toNat
    let den := unitsPerOne * Nat.pow 10 exponent.toNat
    let below : Decimal := ⟨num / den, exponent⟩
    let above : Decimal := ⟨num / den + 1, exponent⟩
    match readsBack ordinal below, readsBack ordinal above with
    | true, false => below
    | false, true => above
    | true, true =>
      let r := num % den
      if 2 * r < den then below
      else if den < 2 * r then above
      else if tie = .toEven ∧ below.coefficient % 2 = 0 then below else above
    | false, false => shortestFrom tie ordinal place tries (count + 1)

/-- The decimal without trailing zeros in its coefficient. -/
def Decimal.trimmed (d : Decimal) : Decimal :=
  let digits := (Nat.toDigits 10 d.coefficient).reverse
  let zeros := (digits.takeWhile (· == '0')).length
  ⟨d.coefficient / Nat.pow 10 zeros, d.exponent + zeros⟩

/-- The shortest decimal that reads back as the magnitude of a positive finite ordinal. -/
def shortest (tie : Tie) (ordinal : Nat) : Decimal :=
  (shortestFrom tie ordinal (leadingPlace ordinal) 17 1).trimmed

end FilterQuery.Numeral
