import FilterQuery.Json.Basic

/-!
# Reading JSON

A strict reader: no byte order mark, no trailing comma, no lone surrogate, no control character in
a string, no number beyond the range of doubles, and a bound on how deep values stand inside each
other. Of members with one name the last value counts, in the place of the first.

Every step takes a character or more off the text, so the length of the text bounds the number of
steps.
-/

namespace FilterQuery.Json

/-- How many arrays and objects may stand inside each other in a file. -/
def fileLevels : Nat := 127

/-- Whether a character may stand between the parts of a JSON text. -/
def isSpace (c : Char) : Bool :=
  c == ' ' || c == '\n' || c == '\r' || c == '\t'

/-- The text after any space at its front. -/
def skipSpace (cs : List Char) : List Char :=
  cs.dropWhile isSpace

/-! ### Numbers -/

/-- Reads one or more digits off the front. -/
def takeDigits? (cs : List Char) : Option (List Char × List Char) :=
  match cs.takeWhile Char.isDigit with
  | [] => none
  | digits => some (digits, cs.dropWhile Char.isDigit)

/-- Reads the digits before the point: a single zero, or digits that do not begin with zero. -/
def takeWhole? (cs : List Char) : Option (List Char × List Char) :=
  (takeDigits? cs).filter fun read => read.1.head? != some '0' || read.1.length == 1

/-- Reads a point and digits off the front, if there is a point. -/
def takeFraction? : List Char → Option (List Char × List Char)
  | '.' :: cs => takeDigits? cs
  | cs => some ([], cs)

/-- Reads an exponent off the front, if there is one. -/
def takeExponent? : List Char → Option (Option Int × List Char)
  | [] => some (none, [])
  | c :: cs =>
    if c = 'e' ∨ c = 'E' then
      let (negative, digits) := match cs with
        | '-' :: digits => (true, digits)
        | '+' :: digits => (false, digits)
        | digits => (false, digits)
      (takeDigits? digits).map fun (digits, rest) =>
        let n : Int := Nat.ofDigitChars 10 digits 0
        (some (if negative then -n else n), rest)
    else some (none, c :: cs)

/-- Reads an unsigned number off the front. An integer within 64 bits stays an integer, except that
negative zero is a double. Every other number is rounded correctly: a reader that only does its best
in the last bit may return a neighbour of this double. -/
def takeMagnitude? (negative : Bool) (cs : List Char) : Option (Json × List Char) := do
  let (whole, cs) ← takeWhole? cs
  let (fraction, cs) ← takeFraction? cs
  let (exponent, cs) ← takeExponent? cs
  let n : Int := Nat.ofDigitChars 10 whole 0
  let i := if negative then -n else n
  if fraction = [] ∧ exponent = none ∧ keepsInteger i ∧ (i ≠ 0 ∨ !negative) then
    some (.integer i, cs)
  else
    let coefficient := Nat.ofDigitChars 10 (whole ++ fraction) 0
    let x := Binary64.ofDecimal negative coefficient (exponent.getD 0 - fraction.length)
    if x.isFinite then some (.float x, cs) else none

/-- Reads a number off the front. -/
def takeNumber? : List Char → Option (Json × List Char)
  | '-' :: cs => takeMagnitude? true cs
  | cs => takeMagnitude? false cs

/-! ### Strings -/

/-- The value of a hexadecimal digit. -/
def hexValue? (c : Char) : Option Nat :=
  if c.isDigit then some (c.toNat - '0'.toNat)
  else if 'a' ≤ c ∧ c ≤ 'f' then some (c.toNat - 'a'.toNat + 10)
  else if 'A' ≤ c ∧ c ≤ 'F' then some (c.toNat - 'A'.toNat + 10)
  else none

/-- Reads four hexadecimal digits off the front. -/
def takeHex? : List Char → Option (Nat × List Char)
  | a :: b :: c :: d :: cs => do
    let a ← hexValue? a
    let b ← hexValue? b
    let c ← hexValue? c
    let d ← hexValue? d
    some (((a * 16 + b) * 16 + c) * 16 + d, cs)
  | _ => none

/-- Reads the character of a numeric escape off the front; characters beyond the first 65536 take
two escapes. -/
def takeUnit? (cs : List Char) : Option (Char × List Char) := do
  let (n, cs) ← takeHex? cs
  if 0xD800 ≤ n && n < 0xDC00 then
    match cs with
    | '\\' :: 'u' :: cs =>
      let (low, cs) ← takeHex? cs
      if 0xDC00 ≤ low && low < 0xE000 then
        some (Char.ofNat (0x10000 + (n - 0xD800) * 0x400 + (low - 0xDC00)), cs)
      else none
    | _ => none
  else if 0xDC00 ≤ n && n < 0xE000 then none
  else some (Char.ofNat n, cs)

/-- Reads the character of an escape off the front, after its backslash. -/
def takeEscape? : List Char → Option (Char × List Char)
  | '"' :: cs => some ('"', cs)
  | '\\' :: cs => some ('\\', cs)
  | '/' :: cs => some ('/', cs)
  | 'b' :: cs => some ('\x08', cs)
  | 'f' :: cs => some ('\x0c', cs)
  | 'n' :: cs => some ('\n', cs)
  | 'r' :: cs => some ('\r', cs)
  | 't' :: cs => some ('\t', cs)
  | 'u' :: cs => takeUnit? cs
  | _ => none

/-- Reads a string off the front, after its opening quote. The characters read so far are kept in
reverse. -/
def takeString? : (steps : Nat) → (read : List Char) → List Char → Option (String × List Char)
  | 0, _, _ => none
  | _ + 1, _, [] => none
  | steps + 1, read, c :: cs =>
    if c = '"' then some (String.ofList read.reverse, cs)
    else if c = '\\' then
      match takeEscape? cs with
      | none => none
      | some (escaped, rest) => takeString? steps (escaped :: read) rest
    else if c.toNat < 0x20 then none
    else takeString? steps (c :: read) cs

/-! ### Values -/

/-- The text after a word that must stand at its front. -/
def afterWord? (word : String) (cs : List Char) : Option (List Char) :=
  if word.toList.isPrefixOf cs then some (cs.drop word.length) else none

mutual

/-- Reads a value off the front, with at most `levels` arrays and objects inside each other. -/
def takeValue? : (steps levels : Nat) → List Char → Option (Json × List Char)
  | 0, _, _ => none
  | steps + 1, levels, cs =>
    match skipSpace cs with
    | [] => none
    | '"' :: cs => (takeString? steps [] cs).map fun (s, cs) => (.string s, cs)
    | '[' :: cs =>
      match levels, skipSpace cs with
      | 0, _ => none
      | _ + 1, ']' :: cs => some (.array [], cs)
      | levels + 1, cs =>
        (takeItems? steps levels [] cs).map fun (items, cs) => (.array items, cs)
    | '\x7b' :: cs =>
      match levels, skipSpace cs with
      | 0, _ => none
      | _ + 1, '\x7d' :: cs => some (.object [], cs)
      | levels + 1, cs =>
        (takeMembers? steps levels [] cs).map fun (members, cs) => (.object members, cs)
    | 'n' :: cs => (afterWord? "ull" cs).map fun cs => (.null, cs)
    | 't' :: cs => (afterWord? "rue" cs).map fun cs => (.bool true, cs)
    | 'f' :: cs => (afterWord? "alse" cs).map fun cs => (.bool false, cs)
    | cs => takeNumber? cs

/-- Reads the items of an array up to its closing bracket. The items read so far are kept in
reverse. -/
def takeItems? : (steps levels : Nat) → (read : List Json) → List Char →
    Option (List Json × List Char)
  | 0, _, _, _ => none
  | steps + 1, levels, read, cs =>
    match takeValue? steps levels cs with
    | none => none
    | some (item, cs) =>
      match skipSpace cs with
      | ',' :: cs => takeItems? steps levels (item :: read) cs
      | ']' :: cs => some ((item :: read).reverse, cs)
      | _ => none

/-- Reads the members of an object up to its closing brace, adding to those read so far. -/
def takeMembers? : (steps levels : Nat) → (read : List (String × Json)) → List Char →
    Option (List (String × Json) × List Char)
  | 0, _, _, _ => none
  | steps + 1, levels, read, cs =>
    match skipSpace cs with
    | '"' :: cs =>
      match takeString? steps [] cs with
      | none => none
      | some (name, cs) =>
        match skipSpace cs with
        | ':' :: cs =>
          match takeValue? steps levels cs with
          | none => none
          | some (value, cs) =>
            match skipSpace cs with
            | ',' :: cs => takeMembers? steps levels (setMember read name value) cs
            | '\x7d' :: cs => some (setMember read name value, cs)
            | _ => none
        | _ => none
    | _ => none

end

/-- Reads a whole JSON text with at most `levels` arrays and objects inside each other. -/
def readWithin? (levels : Nat) (text : String) : Option Json :=
  let cs := text.toList
  match takeValue? (2 * cs.length + 2) levels cs with
  | some (value, rest) => if skipSpace rest = [] then some value else none
  | none => none

/-- Reads a whole JSON text. -/
def read? (text : String) : Option Json :=
  readWithin? fileLevels text

end FilterQuery.Json
