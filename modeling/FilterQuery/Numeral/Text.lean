import FilterQuery.Numeral.Integer
import FilterQuery.Numeral.Shortest

/-!
# Double precision numbers in text

Numbers are read from decimal text with correct rounding. They are written in two layouts: *plain*
text, which never has an exponent, and the text of a JSON number, which always has a point or an
exponent and so never looks like an integer.
-/

namespace FilterQuery.Binary64

open FilterQuery.Numeral

/-! ### Reading -/

/-- Reads the exponent after a mantissa: nothing, or an `e` of either case and an integer. -/
def exponent? : List Char → Option Int
  | [] => some 0
  | c :: cs => if c = 'e' ∨ c = 'E' then integer? cs else none

/-- Reads an unsigned decimal: digits with an optional point among or beside them, and an optional
exponent. -/
def magnitude? (negative : Bool) (cs : List Char) : Option Binary64 :=
  let whole := cs.takeWhile Char.isDigit
  let rest := cs.dropWhile Char.isDigit
  let (fraction, rest) := match rest with
    | '.' :: rest => (rest.takeWhile Char.isDigit, rest.dropWhile Char.isDigit)
    | rest => ([], rest)
  if whole ++ fraction = [] then none
  else (exponent? rest).map fun e =>
    ofDecimal negative (Nat.ofDigitChars 10 (whole ++ fraction) 0) (e - fraction.length)

/-- Reads an unsigned number: a decimal, or the words for infinity and not-a-number in any case. -/
def unsigned? (negative : Bool) (cs : List Char) : Option Binary64 :=
  match String.ofList (cs.map Char.toLower) with
  | "inf" | "infinity" => some (infinity negative)
  | "nan" => some .nan
  | _ => magnitude? negative cs

/-- Reads a number after an optional sign. -/
def read? (s : String) : Option Binary64 :=
  match s.toList with
  | '-' :: cs => unsigned? true cs
  | '+' :: cs => unsigned? false cs
  | cs => unsigned? false cs

/-- Reads a number of finite magnitude. -/
def readFinite? (s : String) : Option Binary64 :=
  (read? s).filter isFinite

/-! ### Writing -/

/-- The sign before a magnitude. -/
def signText (negative : Bool) : String :=
  if negative then "-" else ""

/-- Digits with the point after the first `point` of them, filled up with zeros on either side. -/
def positional (digits : List Char) (point : Int) : List Char × List Char :=
  if point ≤ 0 then (['0'], List.replicate (-point).toNat '0' ++ digits)
  else
    let n := point.toNat
    (digits.take n ++ List.replicate (n - digits.length) '0', digits.drop n)

/-- The plain text: the shortest digits, positional whatever the magnitude, without a fraction if
there is none. Of two equally near decimals the greater one is taken. -/
def toText : Binary64 → String
  | .nan => "NaN"
  | .number negative ordinal _ =>
    if ordinal = infinityOrdinal then signText negative ++ "inf"
    else if ordinal = 0 then signText negative ++ "0"
    else
      let d := shortest .up ordinal
      let digits := Nat.toDigits 10 d.coefficient
      let (whole, fraction) := positional digits (digits.length + d.exponent)
      signText negative ++ String.ofList (if fraction = [] then whole else whole ++ '.' :: fraction)

/-- The text of a JSON number, or nothing if JSON has none. Positional from `1e-5` up to below
`1e16`, with `.0` after an integer; elsewhere one digit before the point and a signed exponent. Of
two equally near decimals the even one is taken. -/
def jsonText? : Binary64 → Option String
  | .nan => none
  | .number negative ordinal _ =>
    if ordinal = infinityOrdinal then none
    else if ordinal = 0 then some (signText negative ++ "0.0")
    else
      let d := shortest .toEven ordinal
      let digits := Nat.toDigits 10 d.coefficient
      let point := digits.length + d.exponent
      let text :=
        if -5 < point ∧ point ≤ 16 then
          let (whole, fraction) := positional digits point
          whole ++ '.' :: (if fraction = [] then ['0'] else fraction)
        else
          let mantissa := match digits with
            | first :: second :: rest => first :: '.' :: second :: rest
            | digits => digits
          let exponent := point - 1
          mantissa ++ 'e' :: (if exponent < 0 then '-' else '+')
            :: Nat.toDigits 10 exponent.natAbs
      some (signText negative ++ String.ofList text)

end FilterQuery.Binary64
