import GridRobot.Text.Quoted

/-! # Instructions

One character of an instruction text is one instruction. Reading never fails: a character outside
the instruction set becomes an `unknown` instruction, and each generation of robots decides what an
unknown instruction means to it. -/

namespace GridRobot

/-- What one character asks of a robot. -/
inductive Instruction where
  | forward
  | backward
  | left
  | right
  /-- Asks for a boost of the next forward move, before any cap. -/
  | boost (value : UInt8)
  | unknown (character : Char)
  deriving DecidableEq, Repr, Inhabited

namespace Instruction

def decode (c : Char) : Instruction :=
  match c with
  | 'F' => forward
  | 'B' => backward
  | 'L' => left
  | 'R' => right
  | c => if c.isDigit then boost (c.toNat - '0'.toNat).toUInt8 else unknown c

/-- The character that stands for an instruction. Boosts beyond nine, which no character asks for,
continue past the digits. -/
def toChar : Instruction → Char
  | forward => 'F'
  | backward => 'B'
  | left => 'L'
  | right => 'R'
  | boost value => Char.ofNat ('0'.toNat + value.toNat)
  | unknown c => c

def mnemonic : Instruction → String
  | forward => "FORWARD"
  | backward => "BACKWARD"
  | left => "LEFT"
  | right => "RIGHT"
  | boost _ => "BOOST"
  | unknown _ => "UNKNOWN"

/-- The name, with the magnitude of a boost or the character of an unknown instruction. -/
def display : Instruction → String
  | boost value => "BOOST " ++ value.toNat.repr
  | unknown c => "UNKNOWN " ++ Text.quotedChar c
  | i => i.mnemonic

def decodeText (text : String) : List (Nat × Instruction) :=
  text.toList.zipIdx.map fun (c, index) => (index, decode c)

end Instruction
end GridRobot
