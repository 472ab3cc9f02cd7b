import GridRobot.Proofs.Following

/-! # Reports, character by character

`Interpreter.follow` makes a report from the end of the text back. Read from the front, a report is
the sum of what is noted of each character (`Interpreter.report_cons`), and what is noted of one
character depends on the robot only through what it shows afterwards, because every generation
decides by the instruction alone whether to take it (`Interpreter.TakesUnderstood`).

Reports add up with `++`. The rest of the module is what follows from that by induction on the
text: a report on a text in two parts, on a text whose characters are counted from elsewhere, and
the reports that two states make on the same text. -/

namespace GridRobot

/-! ## Adding reports -/

namespace Report

/-- The report on a text in two parts, from the reports on the parts. -/
def append (first second : Report) : Report where
  executed := first.executed + second.executed
  ignored := first.ignored + second.ignored
  warnings := first.warnings ++ second.warnings
  steps := first.steps ++ second.steps

instance : Append Report := ⟨append⟩

@[simp] theorem executed_append (first second : Report) :
    (first ++ second).executed = first.executed + second.executed := rfl

@[simp] theorem ignored_append (first second : Report) :
    (first ++ second).ignored = first.ignored + second.ignored := rfl

@[simp] theorem warnings_append (first second : Report) :
    (first ++ second).warnings = first.warnings ++ second.warnings := rfl

@[simp] theorem steps_append (first second : Report) :
    (first ++ second).steps = first.steps ++ second.steps := rfl

@[ext] theorem ext {r s : Report} (executed : r.executed = s.executed)
    (ignored : r.ignored = s.ignored) (warnings : r.warnings = s.warnings)
    (steps : r.steps = s.steps) : r = s := by
  cases r
  cases s
  simp only at executed ignored warnings steps
  rw [executed, ignored, warnings, steps]

theorem empty_append (r : Report) : {} ++ r = r := by
  ext <;> simp

theorem append_empty (r : Report) : r ++ {} = r := by
  ext <;> simp

theorem append_assoc (r s t : Report) : r ++ s ++ t = r ++ (s ++ t) := by
  ext1 <;> simp [Nat.add_assoc]

end Report

/-! ## Counting characters from elsewhere -/

def Warning.delayed (n : Nat) (w : Warning) : Warning :=
  { w with index := w.index + n }

def Step.delayed (n : Nat) (s : Step) : Step :=
  { s with index := s.index + n }

/-- The report for when the text comes after `n` other characters. -/
def Report.delayed (n : Nat) (r : Report) : Report :=
  { r with warnings := r.warnings.map (.delayed n), steps := r.steps.map (.delayed n) }

theorem Report.delayed_append (n : Nat) (first second : Report) :
    (first ++ second).delayed n = first.delayed n ++ second.delayed n := by
  ext1 <;> simp [delayed]

/-- A report without its steps, the only part that tells where the robot was. -/
def Report.untraced (r : Report) : Report :=
  { r with steps := [] }

theorem Report.untraced_append (first second : Report) :
    (first ++ second).untraced = first.untraced ++ second.untraced := rfl

/-! ## What is noted of one character -/

/-- Whether an instruction is in the set of a generation. -/
def Generation.understands : Generation → Instruction → Bool
  | _, .forward | _, .backward | _, .left | _, .right => true
  | .mk3, .boost _ => true
  | _, _ => false

/-- What is noted of one character. `reading` is what the robot shows afterwards. -/
def Generation.noted (generation : Generation) (recordTrace : Bool) (reading : Reading)
    (index : Nat) (c : Char) : Report :=
  let instruction := Instruction.decode c
  if generation.understands instruction then
    { executed := 1, steps := if recordTrace then [{ reading with index, instruction }] else [] }
  else
    { ignored := 1,
      warnings := if generation.warns then [{ index, character := instruction.toChar }] else [] }

namespace Generation

variable (generation : Generation) (recordTrace : Bool)

theorem noted_of_understood {c : Char} (understood : generation.understands (.decode c) = true)
    (reading : Reading) (index : Nat) :
    generation.noted recordTrace reading index c
      = { executed := 1,
          steps :=
            if recordTrace then [{ reading with index, instruction := .decode c }] else [] } :=
  if_pos understood

theorem noted_of_ignored {c : Char} (ignored : generation.understands (.decode c) = false)
    (reading : Reading) (index : Nat) :
    generation.noted recordTrace reading index c
      = { ignored := 1,
          warnings :=
            if generation.warns then [{ index, character := (Instruction.decode c).toChar }]
            else [] } :=
  if_neg (Bool.not_eq_true _ ▸ ignored)

theorem noted_delayed (reading : Reading) (index n : Nat) (c : Char) :
    generation.noted recordTrace reading (index + n) c
      = (generation.noted recordTrace reading index c).delayed n := by
  cases understood : generation.understands (.decode c) with
  | true =>
    rw [noted_of_understood _ _ understood, noted_of_understood _ _ understood]
    cases recordTrace <;> rfl
  | false =>
    rw [noted_of_ignored _ _ understood, noted_of_ignored _ _ understood]
    cases generation <;> rfl

end Generation

/-! ### The steps left out -/

/-- The characters of a text that `p` selects, each with its index in the text. -/
def located (p : Char → Bool) (cs : List Char) : List (Char × Nat) :=
  cs.zipIdx.filter fun (c, _) => p c

theorem located_cons (p : Char → Bool) (c : Char) (cs : List Char) :
    located p (c :: cs)
      = (if p c then [(c, 0)] else []) ++ (located p cs).map fun (d, index) => (d, index + 1) := by
  simp only [located, List.zipIdx_cons, List.zipIdx_succ, List.filter_cons, List.filter_map]
  cases p c <;> rfl

namespace Generation

variable (generation : Generation)

/-- What a report on a text says apart from the steps. -/
def tally (cs : List Char) : Report where
  executed := cs.countP fun c => generation.understands (.decode c)
  ignored := cs.countP fun c => !generation.understands (.decode c)
  warnings :=
    if generation.warns then
      (located (fun c => !generation.understands (.decode c)) cs).map fun (character, index) =>
        { index, character }
    else []

theorem tally_nil : generation.tally [] = {} := by
  cases generation <;> rfl

theorem tally_cons (recordTrace : Bool) (reading : Reading) (c : Char) (cs : List Char) :
    generation.tally (c :: cs)
      = (generation.noted recordTrace reading 0 c).untraced
        ++ (generation.tally cs).delayed 1 := by
  simp only [tally, List.countP_cons, located_cons]
  cases understood : generation.understands (.decode c) with
  | true =>
    rw [noted_of_understood _ _ understood]
    cases generation.warns <;> ext1 <;>
      simp [Report.untraced, Report.delayed, Warning.delayed, Nat.add_comm]
  | false =>
    rw [noted_of_ignored _ _ understood]
    cases generation.warns <;> ext1 <;>
      simp [Report.untraced, Report.delayed, Warning.delayed, Instruction.toChar_decode,
        Nat.add_comm]

end Generation

namespace Interpreter

variable {σ : Type} {i : Interpreter σ}

/-- The state of the robot has no say in which instructions are taken. -/
def TakesUnderstood (i : Interpreter σ) : Prop :=
  ∀ state instruction, (i.step state instruction).isSome = i.generation.understands instruction

/-- What is reported of characters that stand at the start of a text. -/
def report (i : Interpreter σ) (recordTrace : Bool) (state : σ) (cs : List Char) : Report :=
  (i.follow recordTrace state 0 cs).report

end Interpreter

theorem Mk1.takesUnderstood : Mk1.interpreter.TakesUnderstood := by
  intro r instruction
  cases instruction <;> rfl

theorem Mk2.takesUnderstood : Mk2.interpreter.TakesUnderstood := by
  intro r instruction
  cases instruction <;> rfl

theorem BoostedMk3.takesUnderstood : BoostedMk3.interpreter.TakesUnderstood := by
  intro s instruction
  cases instruction <;> rfl

/-! ## What is noted of a text -/

namespace Interpreter

variable {σ : Type} {i : Interpreter σ} (takes : i.TakesUnderstood) (recordTrace : Bool)

include takes

theorem advance_of_ignored {c : Char}
    (ignored : i.generation.understands (.decode c) = false) (state : σ) :
    i.advance state c = state := by
  have refused : i.step state (.decode c) = none := by
    rw [← Option.not_isSome_iff_eq_none, takes, ignored]
    exact Bool.false_ne_true
  rw [advance, refused, Option.getD_none]

theorem follow_report_cons (state : σ) (index : Nat) (c : Char) (cs : List Char) :
    (i.follow recordTrace state index (c :: cs)).report
      = i.generation.noted recordTrace (i.reading (i.advance state c)) index c
        ++ (i.follow recordTrace (i.advance state c) (index + 1) cs).report := by
  have understood := takes state (.decode c)
  rw [follow, advance]
  cases step : i.step state (.decode c) with
  | some next =>
    rw [step, Option.isSome_some] at understood
    rw [Generation.noted_of_understood _ _ understood.symm, Option.getD_some]
    cases recordTrace <;> ext1 <;> simp [Report.taken, Nat.add_comm]
  | none =>
    rw [step, Option.isSome_none] at understood
    rw [Generation.noted_of_ignored _ _ understood.symm, Option.getD_none]
    cases i.generation.warns <;> ext1 <;> simp [Report.warned, Report.skipped, Nat.add_comm]

theorem follow_report_delayed (state : σ) (index n : Nat) (cs : List Char) :
    (i.follow recordTrace state (index + n) cs).report
      = (i.follow recordTrace state index cs).report.delayed n := by
  induction cs generalizing state index with
  | nil => rfl
  | cons c cs ih =>
    rw [follow_report_cons takes, follow_report_cons takes, Report.delayed_append,
      Generation.noted_delayed, Nat.add_right_comm, ih]

theorem report_cons (state : σ) (c : Char) (cs : List Char) :
    i.report recordTrace state (c :: cs)
      = i.generation.noted recordTrace (i.reading (i.advance state c)) 0 c
        ++ (i.report recordTrace (i.advance state c) cs).delayed 1 := by
  rw [report, follow_report_cons takes, follow_report_delayed takes]
  rfl

theorem follow_report_append (state : σ) (index : Nat) (cs ds : List Char) :
    (i.follow recordTrace state index (cs ++ ds)).report
      = (i.follow recordTrace state index cs).report
        ++ (i.follow recordTrace (i.run state cs) (index + cs.length) ds).report := by
  induction cs generalizing state index with
  | nil => exact (Report.empty_append _).symm
  | cons c cs ih =>
    rw [List.cons_append, follow_report_cons takes, follow_report_cons takes, ih,
      Report.append_assoc, run_cons, List.length_cons, Nat.add_comm cs.length, Nat.add_assoc]

/-- The second part of a text is reported on as a text of its own, but for the indices. -/
theorem report_append (state : σ) (cs ds : List Char) :
    i.report recordTrace state (cs ++ ds)
      = i.report recordTrace state cs
        ++ (i.report recordTrace (i.run state cs) ds).delayed cs.length := by
  rw [report, follow_report_append takes, follow_report_delayed takes]
  rfl

/-! ## Without the steps -/

/-- Without the steps, a report is told by the generation and the text. -/
theorem report_untraced (state : σ) (cs : List Char) :
    (i.report recordTrace state cs).untraced = i.generation.tally cs := by
  induction cs generalizing state with
  | nil => exact i.generation.tally_nil.symm
  | cons c cs ih =>
    have later : ((i.report recordTrace (i.advance state c) cs).delayed 1).untraced
        = (i.generation.tally cs).delayed 1 :=
      congrArg (Report.delayed 1) (ih (i.advance state c))
    rw [report_cons takes, Report.untraced_append, later, ← Generation.tally_cons]

end Interpreter

/-! ## Robots of any generation -/

namespace Robot

def recordTrace : Robot → Bool
  | mk1 r => r.recordTrace
  | mk2 r => r.recordTrace
  | mk3 r => r.recordTrace

theorem execute_generation (robot : Robot) (text : String) :
    (robot.execute text).robot.generation = robot.generation := by
  cases robot <;> rfl

/-- All that a robot shows of an execution is what an interpreter makes of the text, from the state
`start`. -/
structure Plays {σ : Type} (robot : Robot) (i : Interpreter σ) (start : σ) : Prop where
  takes : i.TakesUnderstood
  generation : i.generation = robot.generation
  report (text : String) :
    (robot.execute text).report = i.report robot.recordTrace start text.toList
  reading (text : String) :
    (robot.execute text).robot.reading = i.reading (i.run start text.toList)

theorem plays_mk1 (r : Mk1) : (mk1 r).Plays Mk1.interpreter r where
  takes := Mk1.takesUnderstood
  generation := rfl
  report _ := rfl
  reading text := congrArg Mk1.reading (r.execute_robot text)

theorem plays_mk2 (r : Mk2) : (mk2 r).Plays Mk2.interpreter r where
  takes := Mk2.takesUnderstood
  generation := rfl
  report _ := rfl
  reading text := congrArg Mk2.reading (r.execute_robot text)

theorem plays_mk3 (r : Mk3) : (mk3 r).Plays BoostedMk3.interpreter { robot := r } where
  takes := BoostedMk3.takesUnderstood
  generation := rfl
  report _ := rfl
  reading text := congrArg Mk3.reading (r.execute_robot text)

theorem exists_plays (robot : Robot) :
    ∃ (σ : Type) (i : Interpreter σ) (start : σ), robot.Plays i start := by
  cases robot with
  | mk1 r => exact ⟨_, _, _, plays_mk1 r⟩
  | mk2 r => exact ⟨_, _, _, plays_mk2 r⟩
  | mk3 r => exact ⟨_, _, _, plays_mk3 r⟩

/-- Neither the state of a robot nor whether it records its steps shows anywhere else in a
report. -/
theorem execute_untraced (robot : Robot) (text : String) :
    (robot.execute text).report.untraced = robot.generation.tally text.toList := by
  obtain ⟨σ, i, start, plays⟩ := robot.exists_plays
  rw [plays.report, Interpreter.report_untraced plays.takes, plays.generation]

end Robot
end GridRobot
