import GridRobot.CommandLine.Performance

/-! # The program

Reads the files that the command line names, and leaves the rest to `CommandLine.perform`. -/

namespace GridRobot

/-- The number of an error. Some calls report it negated, as a word of 32 bits. -/
def IoError.numberOf (code : UInt32) : Nat :=
  if code.toNat < UInt32.size / 2 then code.toNat else UInt32.size - code.toNat

/-- An error that the operating system reported; one without a number counts as a failed device. -/
def IoError.ofSystem : IO.Error → IoError
  | .otherError code _ | .resourceBusy code _ | .resourceVanished code _
  | .unsupportedOperation code _ | .hardwareFault code _ | .unsatisfiedConstraints code _
  | .illegalOperation code _ | .protocolError code _ | .timeExpired code _ =>
    .system (numberOf code)
  | .interrupted _ code _ | .noFileOrDirectory _ code _ => .system (numberOf code)
  | .alreadyExists _ code _ | .invalidArgument _ code _ | .permissionDenied _ code _
  | .resourceExhausted _ code _ | .inappropriateType _ code _ | .noSuchThing _ code _ =>
    .system (numberOf code)
  | .unexpectedEof | .userError _ => .system 5

def readText (path : String) : IO (Except IoError String) := do
  if path.contains '\x00' then
    return .error .zeroInPath
  try
    let bytes ← IO.FS.readBinFile path
    match String.fromUTF8? bytes with
    | some text => return .ok text
    | none => return .error .notText
  catch e =>
    return .error (.ofSystem e)

end GridRobot

open GridRobot CommandLine in
def main (args : List String) : IO UInt32 := do
  let files ←
    match Invocation.parse args with
    | .error _ => pure []
    | .ok inv => (paths inv).mapM fun path => return (path, ← readText path)
  let exit := run (fun path => (files.lookup path).getD (.error (.system 2))) args
  IO.print exit.stdout
  IO.eprint exit.stderr
  return exit.code.toUInt32
