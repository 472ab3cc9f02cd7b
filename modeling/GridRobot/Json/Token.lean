import GridRobot.Json.Literal
import GridRobot.Json.Number

/-! # Tokens of JSON

A text of JSON is cut into tokens by a scanner that takes one character at a time. Space, tab, line
feed and carriage return may stand between tokens. -/

namespace GridRobot.Json

inductive Token where
  | openArray
  | closeArray
  | openObject
  | closeObject
  | comma
  | colon
  | null
  | bool (b : Bool)
  | number (n : Number)
  /-- A string literal; `none` if it stands for no text. -/
  | string (s : Option String)
  deriving DecidableEq, Repr

/-- What the scanner is in the midst of. Characters read so far are kept with the newest first. -/
inductive Scanner where
  | between
  | inWord (read : List Char)
  | inNumber (read : List Char)
  | inString (read : List Char)
  | afterBackslash (read : List Char)
  deriving DecidableEq, Repr

namespace Token

def text : Token → List Char
  | openArray => ['[']
  | closeArray => [']']
  | openObject => ['\x7b']
  | closeObject => ['\x7d']
  | comma => [',']
  | colon => [':']
  | null => ['n', 'u', 'l', 'l']
  | bool true => ['t', 'r', 'u', 'e']
  | bool false => ['f', 'a', 'l', 's', 'e']
  | number n => n.text
  | string s => Literal.text s

def ofSign? (c : Char) : Option Token :=
  match c with
  | '[' => some openArray
  | ']' => some closeArray
  | '\x7b' => some openObject
  | '\x7d' => some closeObject
  | ',' => some comma
  | ':' => some colon
  | _ => none

def ofWord? (cs : List Char) : Option Token :=
  match cs with
  | ['n', 'u', 'l', 'l'] => some null
  | ['t', 'r', 'u', 'e'] => some (bool true)
  | ['f', 'a', 'l', 's', 'e'] => some (bool false)
  | _ => none

end Token

/-- May stand between tokens. -/
def isGap (c : Char) : Bool :=
  c == ' ' || c == '\t' || c == '\n' || c == '\r'

namespace Scanner

/-- What a character starts that stands between tokens: the tokens it completes, and what the
scanner is in after it. -/
def start (c : Char) : Option (List Token × Scanner) :=
  if isGap c then some ([], between)
  else if c = '"' then some ([], inString [])
  else if c.isDigit || c == '-' then some ([], inNumber [c])
  else if c.isLower then some ([], inWord [c])
  else (Token.ofSign? c).map fun t => ([t], between)

/-- A token that ended where this character starts something else. -/
def startAfter (token : Option Token) (c : Char) : Option (List Token × Scanner) := do
  let t ← token
  let (ts, scanner) ← start c
  return (t :: ts, scanner)

def wordToken (read : List Char) : Option Token :=
  Token.ofWord? read.reverse

def numberToken (read : List Char) : Option Token :=
  (Number.ofChars? read.reverse).map .number

/-- One character more: the tokens it completes, and what the scanner is in after it. -/
def feed : Scanner → Char → Option (List Token × Scanner)
  | between, c => start c
  | inWord read, c =>
    if c.isLower then some ([], inWord (c :: read)) else startAfter (wordToken read) c
  | inNumber read, c =>
    if Number.isNumberChar c then some ([], inNumber (c :: read))
    else startAfter (numberToken read) c
  | inString read, c =>
    if c = '"' then (Literal.read? read.reverse).map fun s => ([.string s], between)
    else if c = '\\' then some ([], afterBackslash (c :: read))
    else some ([], inString (c :: read))
  | afterBackslash read, c => some ([], inString (c :: read))

def finish : Scanner → Option (List Token)
  | between => some []
  | inWord read => (wordToken read).map ([·])
  | inNumber read => (numberToken read).map ([·])
  | inString _ => none
  | afterBackslash _ => none

def run : Scanner → List Char → Option (List Token)
  | scanner, [] => scanner.finish
  | scanner, c :: cs =>
    match scanner.feed c with
    | none => none
    | some (ts, next) => (next.run cs).map (ts ++ ·)

end Scanner

def tokens? (cs : List Char) : Option (List Token) :=
  Scanner.between.run cs

end GridRobot.Json
