import GridRobot.Run

/-! # Arguments

The grammar of the command line. Options of the whole program come before or after the command and
may be repeated there; the options of a command come after it. Arguments are read from left to
right, and the value of an option that is not attached to it is settled only when something else
begins, so the first argument that is wrong, or that asks for help, decides. -/

namespace GridRobot.CommandLine

inductive Refusal where
  | help
  | version
  | usage
  deriving DecidableEq, Repr

inductive Opt where
  | config
  | trace
  | verbose
  | generation
  | startX
  | startY
  | help
  | version
  deriving DecidableEq, Repr

/-- Where on the command line an argument stands: before the command, or after which command. -/
inductive Scope where
  | program
  | run
  | script
  | instructions
  deriving DecidableEq, Repr

inductive Setting where
  | config (path : String)
  | trace
  | verbose
  | generation (g : Generation)
  | startX (x : Coordinate)
  | startY (y : Coordinate)
  deriving DecidableEq, Repr

namespace Opt

/-- The name after two dashes. -/
def long : Opt → String
  | config => "config"
  | trace => "trace"
  | verbose => "verbose"
  | generation => "generation"
  | startX => "start-x"
  | startY => "start-y"
  | help => "help"
  | version => "version"

/-- The letter after one dash. -/
def short : Opt → Char
  | config => 'c'
  | trace => 't'
  | verbose => 'v'
  | generation => 'g'
  | startX => 'x'
  | startY => 'y'
  | help => 'h'
  | version => 'V'

def takesValue : Opt → Bool
  | config | generation | startX | startY => true
  | trace | verbose | help | version => false

def allowsNegative : Opt → Bool
  | startX | startY => true
  | _ => false

end Opt

namespace Scope

def options : Scope → List Opt
  | program => [.config, .trace, .verbose, .help, .version]
  | run | script => [.config, .trace, .verbose, .generation, .startX, .startY, .help]
  | instructions => [.config, .trace, .verbose, .generation, .help]

def takesOperand : Scope → Bool
  | run | script => true
  | program | instructions => false

/-- The scope that a command word opens. -/
def ofCommand? (word : String) : Option Scope :=
  match word with
  | "run" => some run
  | "script" => some script
  | "instructions" => some instructions
  | _ => none

end Scope

namespace Setting

def opt : Setting → Opt
  | config _ => .config
  | trace => .trace
  | verbose => .verbose
  | generation _ => .generation
  | startX _ => .startX
  | startY _ => .startY

/-- The setting of an option by a value, which is empty for an option without one. -/
def parse? (o : Opt) (value : String) : Option Setting :=
  match o with
  | .config => some (config value)
  | .trace => some trace
  | .verbose => some verbose
  | .generation =>
    match Generation.parse value with
    | .ok g => some (generation g)
    | .error _ => none
  | .startX => (Coordinate.ofNumeral? value.toList).map startX
  | .startY => (Coordinate.ofNumeral? value.toList).map startY
  | .help => none
  | .version => none

end Setting

/-! ## Reading arguments -/

/-- What was read last and is not settled yet. -/
inductive Pending where
  | nothing
  | awaiting (o : Opt)
  | given (o : Opt) (value : String)
  | operand (value : String)
  deriving DecidableEq, Repr

/-- What has been read in one scope. -/
structure Progress where
  settings : List Setting := []
  operand : Option String := none
  pending : Pending := .nothing
  /-- Two dashes came before, and every argument is an operand. -/
  operandsOnly : Bool := false
  deriving DecidableEq, Repr

namespace Progress

/-- Takes in a setting, which must be the first of its option. -/
def set (p : Progress) (o : Opt) (value : String) : Except Refusal Progress :=
  if p.settings.any fun s => s.opt = o then .error .usage
  else
    match Setting.parse? o value with
    | none => .error .usage
    | some s => .ok { p with settings := p.settings ++ [s] }

def settle (p : Progress) : Except Refusal Progress :=
  let clear := { p with pending := .nothing }
  match p.pending with
  | .nothing => .ok p
  | .awaiting _ => .error .usage
  | .given o value => clear.set o value
  | .operand value => .ok { clear with operand := some value }

def flag (p : Progress) (o : Opt) : Except Refusal Progress := do
  let p ← p.settle
  match o with
  | .help => throw .help
  | .version => throw .version
  | o => p.set o ""

def attached (p : Progress) (o : Opt) (value : List Char) : Except Refusal Progress := do
  let p ← p.settle
  p.set o (String.ofList value)

def await (p : Progress) (o : Opt) : Except Refusal Progress := do
  let p ← p.settle
  return { p with pending := .awaiting o }

def takeOperand (scope : Scope) (p : Progress) (arg : String) : Except Refusal Progress := do
  if scope.takesOperand ∧ p.operand = none ∧ ¬ p.pending matches .operand _ then
    let p ← p.settle
    return { p with pending := .operand arg }
  else throw .usage

/-- Letters after one dash. The first that takes a value takes what is left of them. -/
def takeLetters (scope : Scope) (p : Progress) : List Char → Except Refusal Progress
  | [] => .ok p
  | c :: cs =>
    match scope.options.find? fun o => o.short = c with
    | none => .error .usage
    | some o =>
      if o.takesValue then
        match cs with
        | [] => p.await o
        | '=' :: value => p.attached o value
        | value => p.attached o value
      else do
        let p ← p.flag o
        takeLetters scope p cs

/-- A name after two dashes, with a value after an equals sign if there is one. -/
def takeName (scope : Scope) (p : Progress) (cs : List Char) : Except Refusal Progress :=
  let name := String.ofList (cs.takeWhile (· ≠ '='))
  match scope.options.find? fun o => o.long = name with
  | none => .error .usage
  | some o =>
    match cs.dropWhile (· ≠ '=') with
    | [] => if o.takesValue then p.await o else p.flag o
    | _ :: value => if o.takesValue then p.attached o value else .error .usage

/-- An argument that does not start with a dash, or is a lone dash. -/
def takeWord (scope : Scope) (p : Progress) (arg : String) : Except Refusal Progress :=
  match p.pending with
  | .awaiting o => .ok { p with pending := .given o arg }
  | _ => p.takeOperand scope arg

def take (scope : Scope) (p : Progress) (arg : String) : Except Refusal Progress :=
  if p.operandsOnly then p.takeOperand scope arg
  else
    match arg.toList with
    | ['-', '-'] => .ok { p with operandsOnly := true }
    | '-' :: '-' :: name => p.takeName scope name
    | '-' :: c :: cs =>
      match p.pending with
      | .awaiting o =>
        if o.allowsNegative ∧ (c :: cs).all Char.isDigit then p.takeWord scope arg
        else p.takeLetters scope (c :: cs)
      | _ => p.takeLetters scope (c :: cs)
    | _ => p.takeWord scope arg

def expectsCommand (p : Progress) : Bool :=
  !p.operandsOnly && !(p.pending matches .awaiting _)

end Progress

def readCommand (scope : Scope) (args : List String) : Except Refusal Progress := do
  let p ← args.foldlM (Progress.take scope) {}
  let p ← p.settle
  if scope.takesOperand ∧ p.operand = none then throw .usage
  return p

/-- The arguments after the word `help`: at most one, which names a command. -/
def readHelp (args : List String) : Refusal :=
  match args with
  | [] => .help
  | [word] => if word = "help" ∨ (Scope.ofCommand? word).isSome then .help else .usage
  | _ => .usage

/-- A whole command line: what stands before the command, the command, and what stands after it. -/
structure Parts where
  before : Progress
  scope : Scope
  after : Progress
  deriving DecidableEq, Repr

/-- Reads the arguments from where `before` has been read. What is pending before the command is
settled only after the rest. -/
def readFrom (before : Progress) : List String → Except Refusal Parts
  | [] => .error .usage
  | arg :: args => do
    if before.expectsCommand ∧ arg = "help" then throw (readHelp args)
    match (if before.expectsCommand then Scope.ofCommand? arg else none) with
    | some scope =>
      let after ← readCommand scope args
      let before ← before.settle
      return { before, scope, after }
    | none =>
      let before ← before.take .program arg
      readFrom before args

end GridRobot.CommandLine
