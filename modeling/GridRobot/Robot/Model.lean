import GridRobot.Interpreter

/-! # Models of robots

Each generation is a type of robots of its own. What they have in common is a class, so that a
robot of a known generation is set on the grid and told what to do in one way. -/

namespace GridRobot

/-- What comes of one whole execution: the robot afterwards, its report, and the log. -/
structure Execution (ρ : Type) where
  robot : ρ
  report : Report
  events : List Event

/-- A kind of robot that can be set on the grid and told what to do. -/
class RobotModel (ρ : Type) where
  /-- Sets a fresh robot on the grid. -/
  spawn : Position → Config → ρ
  generation : ρ → Generation
  reading : ρ → Reading
  execute : ρ → String → Execution ρ

namespace RobotModel

variable {ρ : Type} [RobotModel ρ]

/-- A fresh robot of the default configuration. -/
def place (ρ : Type) [RobotModel ρ] (start : Position) : ρ :=
  spawn start {}

/-- Where a fresh robot of the default configuration ends up. -/
def destination (ρ : Type) [RobotModel ρ] (start : Position) (instructions : String) : Position :=
  (reading (execute (place ρ start) instructions).robot).position

end RobotModel
end GridRobot
