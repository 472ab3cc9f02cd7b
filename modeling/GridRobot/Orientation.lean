/-! # Orientations

The four ways a robot can face. Forward is the positive y axis and right the positive x axis. -/

namespace GridRobot

inductive Orientation where
  | forward
  | backward
  | left
  | right
  deriving DecidableEq, Repr

namespace Orientation

instance : Inhabited Orientation := ⟨forward⟩

/-- A quarter turn counter-clockwise. -/
def rotateLeft : Orientation → Orientation
  | forward => left
  | left => backward
  | backward => right
  | right => forward

/-- A quarter turn clockwise. -/
def rotateRight : Orientation → Orientation
  | forward => right
  | right => backward
  | backward => left
  | left => forward

/-- The unit step `(dx, dy)` straight ahead. -/
def delta : Orientation → Int × Int
  | forward => (0, 1)
  | right => (1, 0)
  | backward => (0, -1)
  | left => (-1, 0)

/-- All orientations, clockwise from forward. -/
def all : List Orientation :=
  [forward, right, backward, left]

def name : Orientation → String
  | forward => "forward"
  | backward => "backward"
  | left => "left"
  | right => "right"

def ofName? (s : String) : Option Orientation :=
  all.find? fun o => o.name == s

end Orientation
end GridRobot
