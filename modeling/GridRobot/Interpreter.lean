import GridRobot.Event

/-! # Interpreters

All generations follow an instruction text in the same way: from left to right, each character
once. An `Interpreter` says what sets one generation apart, and `Interpreter.follow` is the way
they share. -/

namespace GridRobot

/-- The rules of one generation. `σ` is what a robot carries while it follows one text. -/
structure Interpreter (σ : Type) where
  generation : Generation
  /-- The state after an instruction; `none` if the instruction is outside the generation's set. -/
  step : σ → Instruction → Option σ
  reading : σ → Reading

/-- What comes of following a text, or the rest of one. -/
structure Transcript (σ : Type) where
  final : σ
  report : Report
  events : List Event

namespace Interpreter

variable {σ : Type}

/-- Follows the characters from a state. `index` is the index of the first character. -/
def follow (i : Interpreter σ) (recordTrace : Bool) : σ → Nat → List Char → Transcript σ
  | state, _, [] => ⟨state, {}, []⟩
  | state, index, c :: cs =>
    let instruction := Instruction.decode c
    match i.step state instruction with
    | some next =>
      let rest := i.follow recordTrace next (index + 1) cs
      let step : Step := { i.reading next with index, instruction }
      { rest with
        report := rest.report.taken recordTrace step
        events := .stepped i.generation step :: rest.events }
    | none =>
      let rest := i.follow recordTrace state (index + 1) cs
      if i.generation.warns then
        let warning : Warning := { index, character := instruction.toChar }
        { rest with
          report := rest.report.warned warning
          events := .badInstruction warning :: rest.events }
      else
        { rest with report := rest.report.skipped }

end Interpreter

end GridRobot
