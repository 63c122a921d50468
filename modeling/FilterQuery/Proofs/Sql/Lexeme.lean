import FilterQuery.Sql.Token

/-!
# Reading SQL back: lexemes

The first stage of the way back from a statement to what it means:

    text ──lex?──▶ lexemes ──read──▶ syntax tree ──predicate?──▶ predicate

The rules of this stage are those of SQL and know nothing of the layout that statements have here.
Blanks part lexemes and mean nothing else. A word is a keyword, in letters of either case, or else
a plain name. Between double quotes stands a name and between single quotes a text, in which the
quote itself is written twice; every other character between quotes stands for itself.
-/

namespace FilterQuery.Sql

/-- All words of the statements written here. -/
def Keyword.all : List Keyword :=
  [.select, .from, .where, .and, .or, .not, .in, .like, .escape, .is, .null, .lower,
    .order, .by, .asc, .desc, .limit, .offset]

/-- The keyword that a word is, in letters of either case. -/
def Keyword.ofWord? (word : List Char) : Option Keyword :=
  Keyword.all.find? fun k => k.text.toList == word.map Char.toUpper

/-- The least parts of a text in SQL. -/
inductive Lexeme where
  | keyword (k : Keyword)
  | name (s : String)
  | quoted (s : String)
  | text (s : String)
  | number (n : Nat)
  | placeholder (n : Nat)
  | operator (c : Comparison)
  | dot
  | star
  | comma
  | opening
  | closing
deriving DecidableEq

namespace Lexeme

/-! ### Characters -/

def isBlank (c : Char) : Bool :=
  c == ' ' || c == '\n' || c == '\r' || c == '\t'

def isWordStart (c : Char) : Bool :=
  c.isAlpha || c == '_'

def isWordChar (c : Char) : Bool :=
  c.isAlphanum || c == '_'

/-! ### One lexeme -/

/-- Reads what stands between quotes off the front, after the opening quote. -/
def takeQuoted? (quote : Char) : List Char → Option (List Char × List Char)
  | [] => none
  | [c] => if c = quote then some ([], []) else none
  | c :: d :: cs =>
    if c ≠ quote then (takeQuoted? quote (d :: cs)).map fun read => (c :: read.1, read.2)
    else if d = quote then (takeQuoted? quote cs).map fun read => (quote :: read.1, read.2)
    else some ([], d :: cs)

/-- Reads the digits at the front as a number; there must be one or more. -/
def takeNumber? (cs : List Char) : Option (Nat × List Char) :=
  match cs.takeWhile Char.isDigit with
  | [] => none
  | digits => some (Nat.ofDigitChars 10 digits 0, cs.dropWhile Char.isDigit)

def ofWord (word : List Char) : Lexeme :=
  match Keyword.ofWord? word with
  | some k => .keyword k
  | none => .name (String.ofList word)

/-- Reads a lexeme off the front that is no word and no number. -/
def takeSign? : List Char → Option (Lexeme × List Char)
  | '(' :: cs => some (.opening, cs)
  | ')' :: cs => some (.closing, cs)
  | ',' :: cs => some (.comma, cs)
  | '.' :: cs => some (.dot, cs)
  | '*' :: cs => some (.star, cs)
  | '=' :: cs => some (.operator .equal, cs)
  | '<' :: '>' :: cs => some (.operator .notEqual, cs)
  | '<' :: '=' :: cs => some (.operator .atMost, cs)
  | '<' :: cs => some (.operator .less, cs)
  | '>' :: '=' :: cs => some (.operator .atLeast, cs)
  | '>' :: cs => some (.operator .greater, cs)
  | '?' :: cs => (takeNumber? cs).map fun (n, cs) => (.placeholder n, cs)
  | '"' :: cs => (takeQuoted? '"' cs).map fun (s, cs) => (.quoted (String.ofList s), cs)
  | '\'' :: cs => (takeQuoted? '\'' cs).map fun (s, cs) => (.text (String.ofList s), cs)
  | _ => none

def take? : List Char → Option (Lexeme × List Char)
  | [] => none
  | c :: cs =>
    if c.isDigit then (takeNumber? (c :: cs)).map fun (n, cs) => (.number n, cs)
    else if isWordStart c then
      some (ofWord ((c :: cs).takeWhile isWordChar), (c :: cs).dropWhile isWordChar)
    else takeSign? (c :: cs)

/-! ### A whole text -/

/-- Reads a text as lexemes, with so many steps. -/
def takeAll? : (steps : Nat) → List Char → Option (List Lexeme)
  | 0, _ => none
  | steps + 1, cs =>
    match cs.dropWhile isBlank with
    | [] => some []
    | cs =>
      match take? cs with
      | none => none
      | some (lexeme, rest) => (takeAll? steps rest).map (lexeme :: ·)

/-- Reads a text as lexemes. Every lexeme takes a character or more, so the length of the text
bounds the steps. -/
def lex? (s : String) : Option (List Lexeme) :=
  takeAll? (s.length + 1) s.toList

end Lexeme

end FilterQuery.Sql
