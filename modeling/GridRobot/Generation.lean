import GridRobot.Fault
import GridRobot.Text.Blank

/-! # Generations

Robots come in three generations. The first moves on fixed axes, the second turns and stays in a
quadrant, the third also burns fuel to boost its forward moves. -/

namespace GridRobot

inductive Generation where
  | mk1
  | mk2
  | mk3
  deriving DecidableEq, Repr, Inhabited

namespace Generation

def all : List Generation :=
  [mk1, mk2, mk3]

def name : Generation → String
  | mk1 => "mk1"
  | mk2 => "mk2"
  | mk3 => "mk3"

def ofName? (s : String) : Option Generation :=
  all.find? fun g => g.name == s

/-- Only the first generation warns of characters that it does not understand. -/
def warns : Generation → Bool
  | mk1 => true
  | mk2 => false
  | mk3 => false

/-- What the generation understands: characters, and what they do. -/
def instructionTable : Generation → List (String × String)
  | mk1 =>
    [("F", "x += 1"), ("B", "x -= 1"), ("L", "y += 1"), ("R", "y -= 1"),
      ("other", "ignored with a warning")]
  | mk2 =>
    [("F", "move 1 along facing, clamp to x >= 0, y >= 0"),
      ("B", "move 1 against facing, clamp to x >= 0, y >= 0"), ("L", "turn counter-clockwise"),
      ("R", "turn clockwise"), ("other", "ignored")]
  | mk3 =>
    [("0-9", "boost the next F, capped at max_boost and fuel; fuel spent now"),
      ("F", "move 1 (or the pending boost) along facing, clamp"),
      ("B", "move 1 against facing, clamp"), ("L", "turn counter-clockwise"),
      ("R", "turn clockwise"), ("other", "ignored")]

def unknownName (name : String) : Fault :=
  ((({ kind := .invalidArgument, message := "unknown robot generation '" ++ name ++ "'" } :
    Fault).during "control::parse_generation").noting "generation" name).noting
      "expected" "mk1, mk2, mk3"

/-- The generation that a trimmed text in small letters names, in full or by its number. -/
def ofCanonical? (cs : List Char) : Option Generation :=
  match cs with
  | ['m', 'k', '1'] | ['1'] => some mk1
  | ['m', 'k', '2'] | ['2'] => some mk2
  | ['m', 'k', '3'] | ['3'] => some mk3
  | _ => none

/-- The generation that a text names. Blanks around the name do not count, nor does the case of
its ASCII letters. -/
def parse (s : String) : Except Fault Generation :=
  match ofCanonical? ((Text.trim s.toList).map Char.toLower) with
  | some g => .ok g
  | none => .error (unknownName s)

end Generation
end GridRobot
