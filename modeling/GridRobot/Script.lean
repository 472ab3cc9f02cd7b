import GridRobot.Run
import GridRobot.Text.Lines

/-! # Scripts

A script is a text with one instruction text per line. A number sign starts a comment, blanks at
the ends of a line do not count, and a line with nothing left has no effect. One robot follows the
effective lines in turn. -/

namespace GridRobot.Script

/-- What is left of a line without its comment and the blanks at its ends. -/
def strip (line : List Char) : List Char :=
  Text.trim (line.takeWhile (· ≠ '#'))

/-- The effective lines of a script, with their numbers, counted from one. -/
def effectiveLines (source : String) : List (Nat × String) :=
  (Text.lines source.toList).zipIdx.filterMap fun (line, index) =>
    let text := strip line
    if text = [] then none else some (index + 1, String.ofList text)

/-- Has a robot follow the lines in turn; each run comes with the number of its line. -/
def follow (robot : Robot) : List (Nat × String) → Logged (List (Nat × Run))
  | [] => ⟨[], []⟩
  | (number, text) :: lines =>
    let execution := robot.execute text
    let rest := follow execution.robot lines
    ⟨(number, Run.capture execution.robot execution.report) :: rest.value,
      .scriptLine number text :: execution.events ++ rest.events⟩

/-- Has a fresh robot of that configuration follow a script. A configuration that makes no sense
is refused, even if the script is empty. -/
def attempt (generation : Generation) (config : Config) (start : Position) (source : String) :
    Except Fault (Logged (List (Nat × Run))) := do
  config.validate
  return follow (Robot.spawn generation start config) (effectiveLines source)

end GridRobot.Script
