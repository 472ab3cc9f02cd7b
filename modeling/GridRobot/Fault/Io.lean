import GridRobot.Fault.SystemText

/-! # Input and output errors

What can go wrong when a file is read: a kind that callers tell apart, and the text that people
see. Errors of the operating system have a number, which decides both. -/

namespace GridRobot

inductive IoErrorKind where
  | notFound
  | permissionDenied
  | connectionRefused
  | alreadyExists
  | wouldBlock
  | invalidInput
  | invalidData
  | timedOut
  | writeZero
  | interrupted
  | unsupported
  | unexpectedEof
  | outOfMemory
  | other
  deriving DecidableEq, Repr

structure IoError where
  kind : IoErrorKind
  text : String
  deriving DecidableEq, Repr

namespace IoErrorKind

def all : List IoErrorKind :=
  [notFound, permissionDenied, connectionRefused, alreadyExists, wouldBlock, invalidInput,
    invalidData, timedOut, writeZero, interrupted, unsupported, unexpectedEof, outOfMemory, other]

/-- The text of an error of which only the kind is known. -/
def description : IoErrorKind → String
  | notFound => "entity not found"
  | permissionDenied => "permission denied"
  | connectionRefused => "connection refused"
  | alreadyExists => "entity already exists"
  | wouldBlock => "operation would block"
  | invalidInput => "invalid input parameter"
  | invalidData => "invalid data"
  | timedOut => "timed out"
  | writeZero => "write zero"
  | interrupted => "operation interrupted"
  | unsupported => "unsupported"
  | unexpectedEof => "unexpected end of file"
  | outOfMemory => "out of memory"
  | other => "other error"

end IoErrorKind

namespace IoError

/-- The kind of the operating system's error of that number. -/
def systemKind : Int → IoErrorKind
  | 1 => .permissionDenied
  | 2 => .notFound
  | 4 => .interrupted
  | 11 => .wouldBlock
  | 12 => .outOfMemory
  | 13 => .permissionDenied
  | 17 => .alreadyExists
  | 22 => .invalidInput
  | 38 | 95 => .unsupported
  | 110 => .timedOut
  | 111 => .connectionRefused
  | _ => .other

def system (number : Int) : IoError :=
  ⟨systemKind number, systemText number ++ " (os error " ++ number.repr ++ ")"⟩

def ofKind (kind : IoErrorKind) : IoError :=
  ⟨kind, kind.description⟩

/-- A path with a zero character in it, which no file can have. -/
def zeroInPath : IoError :=
  ⟨.invalidInput, "file name contained an unexpected NUL byte"⟩

/-- A file whose bytes are no text. -/
def notText : IoError :=
  ⟨.invalidData, "stream did not contain valid UTF-8"⟩

end IoError
end GridRobot
