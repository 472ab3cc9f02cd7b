import GridRobot.CommandLine.Arguments

/-! # Invocations

What a command line asks for, once its arguments are read. -/

namespace GridRobot.CommandLine

/-- With which robot a command starts. -/
structure Launch where
  generation : Generation
  start : Position
  deriving DecidableEq, Repr

/-- What is to be done. -/
inductive Command where
  | run (launch : Launch) (instructions : String)
  | script (launch : Launch) (file : String)
  | instructions (generation : Option Generation)
  deriving DecidableEq, Repr

structure Invocation where
  config : Option String
  /-- Steps are recorded, whatever the configuration says. -/
  trace : Bool
  /-- Whole runs are printed, and more is logged. -/
  verbose : Bool
  command : Command
  deriving DecidableEq, Repr

namespace Progress

def configPath? (p : Progress) : Option String :=
  p.settings.findSome? fun
    | .config path => some path
    | _ => none

def generation? (p : Progress) : Option Generation :=
  p.settings.findSome? fun
    | .generation g => some g
    | _ => none

def startX? (p : Progress) : Option Coordinate :=
  p.settings.findSome? fun
    | .startX x => some x
    | _ => none

def startY? (p : Progress) : Option Coordinate :=
  p.settings.findSome? fun
    | .startY y => some y
    | _ => none

/-- The robot to start with: the first generation at the origin, if nothing else is asked for. -/
def launch (p : Progress) : Launch where
  generation := p.generation?.getD .mk1
  start := ⟨p.startX?.getD .zero, p.startY?.getD .zero⟩

end Progress

namespace Invocation

/-- What the arguments ask for. What is asked for after the command wins. -/
def ofParts (r : Parts) : Except Refusal Invocation := do
  let command ←
    match r.scope, r.after.operand with
    | .run, some text => pure (Command.run r.after.launch text)
    | .script, some file => pure (Command.script r.after.launch file)
    | .instructions, none => pure (Command.instructions r.after.generation?)
    | _, _ => throw .usage
  return {
    config := r.after.configPath? <|> r.before.configPath?
    trace := r.before.settings.contains .trace || r.after.settings.contains .trace
    verbose := r.before.settings.contains .verbose || r.after.settings.contains .verbose
    command }

def parse (args : List String) : Except Refusal Invocation := do
  ofParts (← readFrom {} args)

end Invocation
end GridRobot.CommandLine
