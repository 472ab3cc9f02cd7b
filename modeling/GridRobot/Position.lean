import GridRobot.Coordinate
import GridRobot.Orientation

/-! # Positions

Points of the grid, and the move that robots with a facing make: some distance along it, back into
the quadrant where both coordinates are at least zero. -/

namespace GridRobot

structure Position where
  x : Coordinate
  y : Coordinate
  deriving DecidableEq, Repr

namespace Position

def origin : Position := ⟨.zero, .zero⟩

instance : Inhabited Position := ⟨origin⟩

/-- A point shifted along both axes, each saturating on its own. -/
def offset (p : Position) (dx dy : Int) : Position :=
  ⟨p.x.shift dx, p.y.shift dy⟩

/-- A point with zero in place of each negative coordinate. -/
def clamped (p : Position) : Position :=
  ⟨p.x.clampToZero, p.y.clampToZero⟩

/-- The point `distance` ahead, or behind for a negative distance, then clamped. -/
def drive (p : Position) (facing : Orientation) (distance : Int) : Position :=
  (p.offset (facing.delta.1 * distance) (facing.delta.2 * distance)).clamped

def display (p : Position) : String :=
  "(" ++ toString p.x ++ ", " ++ toString p.y ++ ")"

end Position
end GridRobot
