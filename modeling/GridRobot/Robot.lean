import GridRobot.Robot.Mk1
import GridRobot.Robot.Mk2
import GridRobot.Robot.Mk3

/-! # Robots

A robot of any generation, for when the generation is known only as the program runs. -/

namespace GridRobot

/-- A robot of any generation. -/
inductive Robot where
  | mk1 (robot : Mk1)
  | mk2 (robot : Mk2)
  | mk3 (robot : Mk3)
  deriving DecidableEq, Repr

namespace Robot

def spawn (generation : Generation) (start : Position) (config : Config) : Robot :=
  match generation with
  | .mk1 => mk1 (.spawn start config)
  | .mk2 => mk2 (.spawn start config)
  | .mk3 => mk3 (.spawn start config)

def generation : Robot → Generation
  | mk1 _ => .mk1
  | mk2 _ => .mk2
  | mk3 _ => .mk3

def reading : Robot → Reading
  | mk1 r => r.reading
  | mk2 r => r.reading
  | mk3 r => r.reading

def position (r : Robot) : Position :=
  r.reading.position

/-- An execution whose robot is taken as one of any generation. -/
def widen {ρ : Type} (wrap : ρ → Robot) (e : Execution ρ) : Execution Robot :=
  ⟨wrap e.robot, e.report, e.events⟩

def execute (r : Robot) (instructions : String) : Execution Robot :=
  match r with
  | mk1 r => widen mk1 (r.execute instructions)
  | mk2 r => widen mk2 (r.execute instructions)
  | mk3 r => widen mk3 (r.execute instructions)

end Robot
end GridRobot
