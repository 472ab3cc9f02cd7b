import GridRobot.Robot

/-! # Following a text, state by state

`Interpreter.follow` makes a state, a report and events in one pass. The state alone is the fold of
single steps, `Interpreter.run`, and it depends neither on indices nor on whether steps are
recorded (`follow_final`). The modules on what robots do argue about `run`, one character at a
time, with `Instruction.Reads` for the case split. -/

namespace GridRobot

/-! ## What characters read as -/

namespace Instruction

/-- The number that a digit stands for. -/
def digitValue (c : Char) : Nat :=
  c.toNat - '0'.toNat

/-- Which instruction a character reads as. -/
inductive Reads : Char → Instruction → Prop where
  | forward : Reads 'F' .forward
  | backward : Reads 'B' .backward
  | left : Reads 'L' .left
  | right : Reads 'R' .right
  | digit {c : Char} (isDigit : c.isDigit = true) : Reads c (.boost (digitValue c).toUInt8)
  | other {c : Char} (noDigit : c.isDigit = false) (notForward : c ≠ 'F') (notBackward : c ≠ 'B')
      (notLeft : c ≠ 'L') (notRight : c ≠ 'R') : Reads c (.unknown c)

theorem decode_reads (c : Char) : Reads c (decode c) := by
  unfold decode
  -- One case for each pattern; the last one is still to be split by whether `c` is a digit.
  split
  · exact .forward
  · exact .backward
  · exact .left
  · exact .right
  next notForward notBackward notLeft notRight =>
    cases digit : c.isDigit with
    | true =>
      rw [if_pos rfl]
      exact .digit digit
    | false =>
      rw [if_neg Bool.false_ne_true]
      exact .other digit notForward notBackward notLeft notRight

theorem exists_reads (c : Char) : ∃ instruction, decode c = instruction ∧ Reads c instruction :=
  ⟨decode c, rfl, decode_reads c⟩

theorem digitValue_le_nine {c : Char} (isDigit : c.isDigit = true) : digitValue c ≤ 9 := by
  have greatest : c.toNat ≤ 57 := (Char.isDigit_iff_toNat.mp isDigit).2
  have zero : '0'.toNat = 48 := rfl
  unfold digitValue
  omega

theorem ne_of_isDigit {c letter : Char} (isDigit : c.isDigit = true)
    (noDigit : letter.isDigit = false) : c ≠ letter := by
  rintro rfl
  rw [noDigit] at isDigit
  exact Bool.false_ne_true isDigit

/-- No digit is too large for the eight bits of a boost. -/
theorem toNat_digitValue {c : Char} (isDigit : c.isDigit = true) :
    (digitValue c).toUInt8.toNat = digitValue c := by
  have small := digitValue_le_nine isDigit
  rw [Nat.toUInt8, UInt8.toNat_ofNat']
  omega

/-- No character is lost in reading it. -/
theorem toChar_decode (c : Char) : (decode c).toChar = c := by
  obtain ⟨instruction, decoded, reads⟩ := exists_reads c
  rw [decoded]
  cases reads with
  | forward | backward | left | right | other => rfl
  | digit isDigit =>
    have least : '0'.toNat ≤ c.toNat := (Char.isDigit_iff_toNat.mp isDigit).1
    rw [toChar, toNat_digitValue isDigit, digitValue, Nat.add_sub_cancel' least, Char.ofNat_toNat]

end Instruction

/-! ## The state after a text -/

namespace Interpreter

variable {σ : Type}

def advance (i : Interpreter σ) (state : σ) (c : Char) : σ :=
  (i.step state (Instruction.decode c)).getD state

def run (i : Interpreter σ) (state : σ) (cs : List Char) : σ :=
  cs.foldl i.advance state

@[simp] theorem run_nil (i : Interpreter σ) (state : σ) : i.run state [] = state := rfl

@[simp] theorem run_cons (i : Interpreter σ) (state : σ) (c : Char) (cs : List Char) :
    i.run state (c :: cs) = i.run (i.advance state c) cs := rfl

theorem run_append (i : Interpreter σ) (state : σ) (cs ds : List Char) :
    i.run state (cs ++ ds) = i.run (i.run state cs) ds :=
  List.foldl_append

theorem advance_of_decode {i : Interpreter σ} {c : Char} {instruction : Instruction}
    (decoded : Instruction.decode c = instruction) (state : σ) :
    i.advance state c = (i.step state instruction).getD state := by
  rw [advance, decoded]

/-- What one step preserves, a run preserves. -/
theorem run_invariant (i : Interpreter σ) (invariant : σ → Prop)
    (preserves : ∀ state c, invariant state → invariant (i.advance state c))
    {state : σ} (initial : invariant state) (cs : List Char) : invariant (i.run state cs) := by
  induction cs generalizing state with
  | nil => exact initial
  | cons c cs ih => exact ih (preserves state c initial)

/-- What no step changes, no run changes. -/
theorem run_unchanged {α : Type} (i : Interpreter σ) (field : σ → α)
    (keeps : ∀ state c, field (i.advance state c) = field state) (state : σ) (cs : List Char) :
    field (i.run state cs) = field state := by
  refine i.run_invariant (fun t => field t = field state) ?_ rfl cs
  intro t c same
  rw [keeps, same]

theorem follow_final (i : Interpreter σ) (recordTrace : Bool) (state : σ) (index : Nat)
    (cs : List Char) : (i.follow recordTrace state index cs).final = i.run state cs := by
  induction cs generalizing state index with
  | nil => rfl
  | cons c cs ih =>
    rw [run_cons, advance, follow]
    cases i.step state (Instruction.decode c) with
    | some next => exact ih next (index + 1)
    | none =>
      simp only [Option.getD_none]
      -- With or without a warning, the state stays as it was.
      split
      · exact ih state (index + 1)
      · exact ih state (index + 1)

end Interpreter

theorem Mk1.execute_robot (r : Mk1) (text : String) :
    (r.execute text).robot = Mk1.interpreter.run r text.toList :=
  Interpreter.follow_final _ _ _ _ _

theorem Mk2.execute_robot (r : Mk2) (text : String) :
    (r.execute text).robot = Mk2.interpreter.run r text.toList :=
  Interpreter.follow_final _ _ _ _ _

theorem Mk3.execute_robot (r : Mk3) (text : String) :
    (r.execute text).robot = (BoostedMk3.interpreter.run { robot := r } text.toList).robot :=
  congrArg BoostedMk3.robot (Interpreter.follow_final _ _ _ _ _)

/-! ## One text after another

A robot is left somewhere by one text and follows the next from there. Robots of one generation and
robots of any do so alike, each by its own `execute`. -/

section AfterAll

variable {ρ : Type} {execute : ρ → String → Execution ρ}

/-- The robot as the last of the texts leaves it. -/
def afterAll (execute : ρ → String → Execution ρ) (robot : ρ) (texts : List String) : ρ :=
  texts.foldl (fun robot text => (execute robot text).robot) robot

@[simp] theorem afterAll_nil (robot : ρ) : afterAll execute robot [] = robot := rfl

@[simp] theorem afterAll_cons (robot : ρ) (text : String) (texts : List String) :
    afterAll execute robot (text :: texts) = afterAll execute (execute robot text).robot texts :=
  rfl

/-- What one call preserves, any calls preserve. -/
theorem afterAll_invariant (invariant : ρ → Prop)
    (preserves : ∀ robot text, invariant robot → invariant (execute robot text).robot) {robot : ρ}
    (initial : invariant robot) (texts : List String) :
    invariant (afterAll execute robot texts) := by
  induction texts generalizing robot with
  | nil => exact initial
  | cons text texts ih => exact ih (preserves robot text initial)

/-- What no call changes, any calls leave unchanged. -/
theorem afterAll_unchanged {α : Type} (field : ρ → α)
    (keeps : ∀ robot text, field (execute robot text).robot = field robot) (robot : ρ)
    (texts : List String) : field (afterAll execute robot texts) = field robot := by
  refine afterAll_invariant (fun other => field other = field robot) ?_ rfl texts
  intro other text same
  rw [keeps, same]

end AfterAll

theorem Robot.afterAll_mk3 (r : Mk3) (texts : List String) :
    afterAll execute (mk3 r) texts = mk3 (afterAll Mk3.execute r texts) :=
  List.foldl_hom mk3 fun _ _ => rfl

end GridRobot
