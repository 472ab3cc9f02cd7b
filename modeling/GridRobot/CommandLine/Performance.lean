import GridRobot.CommandLine.Invocation
import GridRobot.Config.Load
import GridRobot.Script

/-! # Performances

What an invocation prints, logs and fails with is a function of the invocation and of the file
system. Nothing is printed unless everything succeeds. -/

namespace GridRobot.CommandLine

/-- What carrying out an invocation comes to: the events on the way, and the printed text or the
fault. -/
structure Performance where
  events : List Event
  result : Except Fault String

structure Exit where
  code : UInt8
  stdout : String
  stderr : String
  deriving DecidableEq, Repr

/-! ## Printing -/

def printed (line : String) : String :=
  line ++ "\n"

/-- A run as it is printed: in full, or only its position in one line. -/
def showRun (full : Bool) (run : Run) : String :=
  printed (if full then Document.pretty run else Document.compact run.position)

/-- The runs of a script as they are printed; a position comes after the number of its line. -/
def showRuns (full : Bool) (runs : List (Nat × Run)) : String :=
  String.join (runs.map fun (number, run) =>
    if full then showRun full run else number.repr ++ ": " ++ showRun full run)

/-- A text with spaces after it, up to a width. -/
def padTo (width : Nat) (s : String) : String :=
  s ++ String.ofList (List.replicate (width - s.length) ' ')

def showGeneration (g : Generation) : String :=
  printed (g.name ++ ":")
    ++ String.join (g.instructionTable.map fun (character, effect) =>
        printed ("  " ++ padTo 6 character ++ " " ++ effect))

def showInstructions (generation : Option Generation) : String :=
  (printed "").intercalate
    ((match generation with
      | some g => [g]
      | none => Generation.all).map showGeneration)

/-! ## Carrying out -/

def loadConfig (files : FileSystem) (path : Option String) (trace : Bool) :
    Except Fault (Logged Config) := do
  match path with
  | none => return ⟨({} : Config).withTrace trace, []⟩
  | some path =>
    let config ← Config.load files path
    return ⟨config.withTrace (trace || config.recordTrace), [.configLoaded path config]⟩

def readScript (files : FileSystem) (file : String) : Except Fault String :=
  (files file).mapError fun e => ((Fault.ofIo e).during "cli::script").noting "file" file

def performRun (config : Config) (launch : Launch) (instructions : String) (verbose : Bool) :
    Performance :=
  match Run.attempt launch.generation config launch.start instructions with
  | .error fault => ⟨[], .error fault⟩
  | .ok run => ⟨run.events, .ok (showRun (verbose || config.recordTrace) run.value)⟩

def performScript (files : FileSystem) (config : Config) (launch : Launch) (file : String)
    (verbose : Bool) : Performance :=
  match readScript files file with
  | .error fault => ⟨[], .error fault⟩
  | .ok source =>
    match Script.attempt launch.generation config launch.start source with
    | .error fault => ⟨[], .error fault⟩
    | .ok runs => ⟨runs.events, .ok (showRuns (verbose || config.recordTrace) runs.value)⟩

/-- Loads the configuration that an invocation asks for, then goes on with it. -/
def withConfig (files : FileSystem) (inv : Invocation) (next : Config → Performance) :
    Performance :=
  match loadConfig files inv.config inv.trace with
  | .error fault => ⟨[], .error fault⟩
  | .ok config =>
    let rest := next config.value
    ⟨config.events ++ rest.events, rest.result⟩

def perform (files : FileSystem) (inv : Invocation) : Performance :=
  match inv.command with
  | .instructions generation => ⟨[], .ok (showInstructions generation)⟩
  | .run launch text => withConfig files inv fun config => performRun config launch text inv.verbose
  | .script launch file =>
    withConfig files inv fun config => performScript files config launch file inv.verbose

def paths (inv : Invocation) : List String :=
  match inv.command with
  | .instructions _ => []
  | .run _ _ => inv.config.toList
  | .script _ file => inv.config.toList ++ [file]

/-! ## Leaving -/

def showFault (fault : Fault) : String :=
  printed ("Error: " ++ fault.summary)
    ++ (if fault.persistence.isRetryable then
          printed ("(" ++ fault.persistence.name ++ " error, retrying may succeed)")
        else "")

def showEvents (verbose : Bool) (events : List Event) : String :=
  String.join ((events.filter fun e => e.level.isShown verbose).map fun e => printed e.line)

def Performance.exit (verbose : Bool) (p : Performance) : Exit :=
  match p.result with
  | .ok text => ⟨0, text, showEvents verbose p.events⟩
  | .error fault => ⟨1, "", showEvents verbose p.events ++ showFault fault⟩

def usageText : String :=
  "Usage: robocraft [OPTIONS] <COMMAND>\n\nCommands:\n"
    ++ "  run           Run one instruction string on a fresh robot\n"
    ++ "  script        Run each line of a file on the same robot\n"
    ++ "  instructions  Show the instruction set of a generation\n"
    ++ "\nOptions:\n  -c, --config <FILE>  -t, --trace  -v, --verbose  -h, --help  -V, --version\n"

/-- What the program leaves behind if it does not carry out a command line. -/
def Refusal.exit : Refusal → Exit
  | help => ⟨0, usageText, ""⟩
  | version => ⟨0, "robocraft 0.1.0\n", ""⟩
  | usage => ⟨2, "", usageText⟩

def run (files : FileSystem) (args : List String) : Exit :=
  match Invocation.parse args with
  | .error refusal => refusal.exit
  | .ok inv => (perform files inv).exit inv.verbose

end GridRobot.CommandLine
