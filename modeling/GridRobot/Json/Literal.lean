/-! # String literals of JSON

What stands between the quotes of a string literal. An escape may give a character by one or two
units of UTF-16; half of a surrogate pair without the other half stands for no character, and a
literal with one in it stands for no text. Such a literal is well formed nevertheless. -/

namespace GridRobot.Json.Literal

/-! ## Units -/

inductive Piece where
  | char (c : Char)
  /-- An escape by the number of a unit of UTF-16. -/
  | unit (n : Nat)
  deriving DecidableEq, Repr

def hexValue? (c : Char) : Option Nat :=
  if c.isDigit then some (c.toNat - '0'.toNat)
  else if 'a' ≤ c ∧ c ≤ 'f' then some (c.toNat - 'a'.toNat + 10)
  else if 'A' ≤ c ∧ c ≤ 'F' then some (c.toNat - 'A'.toNat + 10)
  else none

def unit? (a b c d : Char) : Option Nat := do
  let a ← hexValue? a
  let b ← hexValue? b
  let c ← hexValue? c
  let d ← hexValue? d
  return ((a * 16 + b) * 16 + c) * 16 + d

/-- The character that a letter or sign after a backslash gives. -/
def escaped? (c : Char) : Option Char :=
  match c with
  | '"' => some '"'
  | '\\' => some '\\'
  | '/' => some '/'
  | 'b' => some '\x08'
  | 'f' => some '\x0c'
  | 'n' => some '\n'
  | 'r' => some '\r'
  | 't' => some '\t'
  | _ => none

/-- The items between the quotes. Control characters must be escaped. -/
def pieces? : List Char → Option (List Piece)
  | [] => some []
  | '\\' :: 'u' :: a :: b :: c :: d :: rest => do
    let n ← unit? a b c d
    let pieces ← pieces? rest
    return .unit n :: pieces
  | '\\' :: c :: rest => do
    let c ← escaped? c
    let pieces ← pieces? rest
    return .char c :: pieces
  | ['\\'] => none
  | c :: rest =>
    if c.toNat < 0x20 then none
    else do
      let pieces ← pieces? rest
      return .char c :: pieces

def isHighHalf (n : Nat) : Bool :=
  0xD800 ≤ n && n ≤ 0xDBFF

def isLowHalf (n : Nat) : Bool :=
  0xDC00 ≤ n && n ≤ 0xDFFF

def ofPair (high low : Nat) : Char :=
  Char.ofNat (0x10000 + (high - 0xD800) * 0x400 + (low - 0xDC00))

/-- The characters that the items give, unless half of a pair stands alone. -/
def chars? : List Piece → Option (List Char)
  | [] => some []
  | .char c :: rest => (chars? rest).map (c :: ·)
  | .unit high :: .unit low :: rest =>
    if isHighHalf high then
      if isLowHalf low then (chars? rest).map (ofPair high low :: ·) else none
    else if isLowHalf high then none
    else (chars? (.unit low :: rest)).map (Char.ofNat high :: ·)
  | .unit n :: rest =>
    if isHighHalf n || isLowHalf n then none else (chars? rest).map (Char.ofNat n :: ·)

/-- What a literal stands for, given what is between its quotes. The outer option is about form,
the inner one about halves of surrogate pairs. -/
def read? (body : List Char) : Option (Option String) :=
  (pieces? body).map fun pieces => (chars? pieces).map String.ofList

/-! ## Writing -/

/-- What stands for a character between the quotes: a short escape if it has one, an escape by
number for the other control characters, and else the character itself. -/
def charText (c : Char) : List Char :=
  match c with
  | '"' => ['\\', '"']
  | '\\' => ['\\', '\\']
  | '\x08' => ['\\', 'b']
  | '\t' => ['\\', 't']
  | '\n' => ['\\', 'n']
  | '\x0c' => ['\\', 'f']
  | '\r' => ['\\', 'r']
  | c =>
    if c.toNat < 0x20 then
      ['\\', 'u', '0', '0', Nat.digitChar (c.toNat / 16), Nat.digitChar (c.toNat % 16)]
    else [c]

/-- A literal, with its quotes. One that stands for no text is written as half of a pair. -/
def text : Option String → List Char
  | some s => '"' :: (s.toList.flatMap charText ++ ['"'])
  | none => ['"', '\\', 'u', 'd', '8', '0', '0', '"']

end GridRobot.Json.Literal
