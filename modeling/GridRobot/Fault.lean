import GridRobot.Fault.Io

/-! # Faults

A fault says what failed: its kind, a message, the operation that was under way, pairs of context,
and what caused it. A cause is another fault, a chain of texts from elsewhere, or an unreadable
document, whose own wording is left open.

* `Fault.summary` is the form in one line, which leaves out the cause;
* `Fault.details` is the form in several lines;
* `Fault.causes` lists the texts of the chain of causes, the nearest first. -/

namespace GridRobot

inductive FaultKind where
  | configInvalid
  | invalidArgument
  | serializationFailed
  | fileNotFound
  | permissionDenied
  | ioFailed
  deriving DecidableEq, Repr

/-- Whether the same attempt may succeed later. -/
inductive Persistence where
  | permanent
  | temporary
  deriving DecidableEq, Repr

mutual

/-- A failure, with where it happened and why. An empty operation means that none is known. -/
structure Fault where
  kind : FaultKind
  message : String
  operation : String := ""
  context : List (String × String) := []
  cause : Option Cause := none

inductive Cause where
  /-- An error from elsewhere, by its text and the texts of its own causes. -/
  | foreign (text : String) (deeper : List String)
  | fault (inner : Fault)
  | unreadable

end

/-! ## Kinds -/

namespace FaultKind

def all : List FaultKind :=
  [configInvalid, invalidArgument, serializationFailed, fileNotFound, permissionDenied, ioFailed]

def name : FaultKind → String
  | configInvalid => "ConfigInvalid"
  | invalidArgument => "InvalidArgument"
  | serializationFailed => "SerializationFailed"
  | fileNotFound => "FileNotFound"
  | permissionDenied => "PermissionDenied"
  | ioFailed => "IoFailed"

/-- Only failed reads and writes may go away by themselves. -/
def persistence : FaultKind → Persistence
  | ioFailed => .temporary
  | _ => .permanent

def ofIo : IoErrorKind → FaultKind
  | .notFound => fileNotFound
  | .permissionDenied => permissionDenied
  | _ => ioFailed

end FaultKind

namespace Persistence

instance : Inhabited Persistence := ⟨permanent⟩

def name : Persistence → String
  | permanent => "permanent"
  | temporary => "temporary"

def isRetryable (p : Persistence) : Bool :=
  p == temporary

end Persistence

namespace Fault

/-! ## Making faults -/

def persistence (f : Fault) : Persistence :=
  f.kind.persistence

/-- The fault as seen from the operation that met it. An operation named before becomes context,
so that no name is lost. -/
def during (f : Fault) (operation : String) : Fault :=
  { f with
    operation
    context := if f.operation = "" then f.context else f.context ++ [("called", f.operation)] }

def noting (f : Fault) (key value : String) : Fault :=
  { f with context := f.context ++ [(key, value)] }

def causedBy (f : Fault) (cause : Cause) : Fault :=
  { f with cause := some cause }

/-- An input or output error as a fault, with the error's text as message and as cause. -/
def ofIo (e : IoError) : Fault :=
  (({ kind := .ofIo e.kind, message := e.text } : Fault).during "io").causedBy (.foreign e.text [])

/-! ## The form in one line -/

def showPair (pair : String × String) : String :=
  pair.1 ++ ": " ++ pair.2

def heading (f : Fault) : String :=
  f.kind.name ++ " (" ++ f.persistence.name ++ ")"

/-- The fault in one line, without its cause; parts that are empty are left out. -/
def summary (f : Fault) : String :=
  f.heading
    ++ (if f.operation = "" then "" else " at " ++ f.operation)
    ++ (if f.context = [] then ""
        else ", context \x7b " ++ ", ".intercalate (f.context.map showPair) ++ " \x7d")
    ++ (if f.message = "" then "" else " => " ++ f.message)

/-! ## Causes -/

end Fault

mutual

/-- The texts of what caused a fault, the nearest first. -/
def Fault.causes : Fault → List String
  | ⟨_, _, _, _, none⟩ => []
  | ⟨_, _, _, _, some cause⟩ => cause.texts

def Cause.texts : Cause → List String
  | .foreign text deeper => text :: deeper
  | .fault inner => inner.summary :: inner.causes
  | .unreadable => []

end

namespace Fault

/-! ## The form in several lines -/

/-- A text of several lines with `later` before every line but the first. -/
def indentLater (later : String) (text : String) : String :=
  String.ofList (text.toList.flatMap fun c => if c = '\n' then '\n' :: later.toList else [c])

/-- One of several deeper causes: its number, right-aligned to a width of five, and its text. -/
def showNumbered (number : Nat) (text : String) : String :=
  String.ofList (List.replicate (5 - number.repr.length) ' ') ++ number.repr ++ ": "
    ++ indentLater "       " text

/-- A chain of texts: the first as it is, then those below it, numbered if there are several. -/
def showChain : List String → String
  | [] => ""
  | [text] => text
  | [text, deeper] => text ++ "\n\nCaused by:\n    " ++ indentLater "    " deeper
  | text :: deeper =>
    text ++ "\n\nCaused by:\n"
      ++ "\n".intercalate (deeper.zipIdx.map fun (t, number) => showNumbered number t)

/-- The section on the cause. The wording of an unreadable document is left open, and the section
stops before it. -/
def causeSection : Option Cause → String
  | none => ""
  | some .unreadable => "\n    Source: "
  | some cause => "\n    Source: " ++ showChain cause.texts ++ "\n"

/-- The fault in several lines, with its cause; sections that are empty are left out. -/
def details (f : Fault) : String :=
  f.heading ++ " at " ++ f.operation ++ "\n"
    ++ (if f.message = "" then "" else "\n    Message: " ++ f.message ++ "\n")
    ++ (if f.context = [] then ""
        else "\n    Context:\n"
          ++ String.join (f.context.map fun pair => "        " ++ showPair pair ++ "\n"))
    ++ causeSection f.cause

end Fault
end GridRobot
