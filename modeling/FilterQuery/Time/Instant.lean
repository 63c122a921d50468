import FilterQuery.Time.Calendar

/-!
# Instants

Points in time on the UTC scale, to the nanosecond, with their RFC 3339 text. A leap second is kept
inside the second before it, as nanoseconds past one thousand million: it comes after every
fraction of that second and before the next one.

`Instant.read?` accepts any offset and remembers none of it; `Instant.toText` writes UTC.
-/

namespace FilterQuery

/-- A point in time. -/
structure Instant where
  /-- Whole seconds since 1970-01-01T00:00:00 UTC. -/
  seconds : Int
  /-- Nanoseconds within the second; from a whole second on they lie in a leap second after it. -/
  nanoseconds : Nat
deriving DecidableEq, Repr, Inhabited

namespace Instant

open Time

/-- The nanoseconds in a second. -/
def wholeSecond : Nat := 1000000000

/-- The order of time. -/
def order (a b : Instant) : Ordering :=
  (compare a.seconds b.seconds).then (compare a.nanoseconds b.nanoseconds)

instance : Ord Instant := ⟨order⟩

/-! ### Reading -/

/-- Reads exactly `count` ASCII digits off the front. -/
def takeNumber? (count : Nat) (cs : List Char) : Option (Nat × List Char) :=
  let digits := cs.take count
  if digits.length = count ∧ digits.all Char.isDigit then
    some (Nat.ofDigitChars 10 digits 0, cs.drop count)
  else none

/-- Reads one character off the front. -/
def takeMark? (allowed : List Char) : List Char → Option (List Char)
  | [] => none
  | c :: cs => if allowed.contains c then some cs else none

/-- Reads a number within bounds off the front. -/
def takeBounded? (count low high : Nat) (cs : List Char) : Option (Nat × List Char) :=
  (takeNumber? count cs).filter fun read => low ≤ read.1 && read.1 ≤ high

/-- Reads a calendar day. -/
def takeDate? (cs : List Char) : Option (Date × List Char) := do
  let (year, cs) ← takeNumber? 4 cs
  let cs ← takeMark? ['-'] cs
  let (month, cs) ← takeNumber? 2 cs
  let cs ← takeMark? ['-'] cs
  let (day, cs) ← takeNumber? 2 cs
  let date : Date := ⟨year, month, day⟩
  if date.isValid then some (date, cs) else none

/-- Reads the fraction of a second, in nanoseconds: nothing, or a point and one digit or more. What
follows the ninth digit is dropped. -/
def takeFraction? : List Char → Option (Nat × List Char)
  | '.' :: cs =>
    let digits := cs.takeWhile Char.isDigit
    if digits = [] then none
    else
      let kept := digits.take 9
      some (Nat.ofDigitChars 10 kept 0 * Nat.pow 10 (9 - kept.length), cs.dropWhile Char.isDigit)
  | cs => some (0, cs)

/-- Reads the offset from UTC that ends the text, in seconds. -/
def offset? : List Char → Option Int
  | ['Z'] | ['z'] => some 0
  | sign :: cs => do
    if sign ∉ ['+', '-', '−'] then none
    let (hours, cs) ← takeBounded? 2 0 23 cs
    let cs ← takeMark? [':'] cs
    let (minutes, cs) ← takeBounded? 2 0 59 cs
    let seconds : Int := hours * 3600 + minutes * 60
    if cs ≠ [] then none
    some (if sign = '+' then seconds else -seconds)
  | [] => none

/-- Reads an RFC 3339 date-time. The date and the time stand apart by `T`, `t` or a space, and
second `60` of any minute is a leap second. -/
def read? (s : String) : Option Instant := do
  let (date, cs) ← takeDate? s.toList
  let cs ← takeMark? ['T', 't', ' '] cs
  let (hour, cs) ← takeBounded? 2 0 23 cs
  let cs ← takeMark? [':'] cs
  let (minute, cs) ← takeBounded? 2 0 59 cs
  let cs ← takeMark? [':'] cs
  let (second, cs) ← takeBounded? 2 0 60 cs
  let (fraction, cs) ← takeFraction? cs
  let offset ← offset? cs
  let (second, fraction) :=
    if second = 60 then (59, fraction + wholeSecond) else (second, fraction)
  let ofDay : Int := hour * 3600 + minute * 60 + second
  some ⟨date.toDays * 86400 + ofDay - offset, fraction⟩

/-! ### Writing -/

/-- A number with zeros before it up to a width. -/
def padded (width n : Nat) : String :=
  let digits := Nat.toDigits 10 n
  String.ofList (List.replicate (width - digits.length) '0' ++ digits)

/-- A year in four digits, with a sign if it lies outside four digits. -/
def yearText (year : Int) : String :=
  let sign := if year < 0 then "-" else if 9999 < year then "+" else ""
  sign ++ padded 4 year.natAbs

/-- The fraction of a second with no digits, three, six or nine, as few as are exact. -/
def fractionText (nanoseconds : Nat) : String :=
  if nanoseconds = 0 then ""
  else if nanoseconds % 1000000 = 0 then "." ++ padded 3 (nanoseconds / 1000000)
  else if nanoseconds % 1000 = 0 then "." ++ padded 6 (nanoseconds / 1000)
  else "." ++ padded 9 nanoseconds

/-- The date-time in UTC, followed by a mark for UTC. -/
def withZone (zone : String) (i : Instant) : String :=
  let date := Date.ofDays (i.seconds / 86400)
  let ofDay := (i.seconds % 86400).toNat
  let leap := wholeSecond ≤ i.nanoseconds
  let second := ofDay % 60 + (if leap then 1 else 0)
  yearText date.year ++ "-" ++ padded 2 date.month ++ "-" ++ padded 2 date.day ++ "T" ++
    padded 2 (ofDay / 3600) ++ ":" ++ padded 2 (ofDay / 60 % 60) ++ ":" ++ padded 2 second ++
    fractionText (i.nanoseconds % wholeSecond) ++ zone

/-- The text of an instant, with the offset written out. -/
def toText (i : Instant) : String :=
  i.withZone "+00:00"

/-- The text of an instant as a JSON string, with the short mark for UTC. -/
def toJsonText (i : Instant) : String :=
  i.withZone "Z"

end Instant

end FilterQuery
