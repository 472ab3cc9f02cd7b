import GridRobot.Proofs.Boosting
import Mathlib.Data.List.Induction

/-! # Boosts without a flag

A robot of the third generation that follows a text carries a flag, which the first digit sets and
nothing clears, and a magnitude, which means nothing before that digit. Neither is needed:
`PendingMk3` carries one distance, if a digit is waiting for its forward move, and takes the same
instructions to the same effect. `Mk3.execute_flagless` says so of whole calls, from whatever boost
they start, and of every character of them; `BoostedMk3.run_boost` says what the two fields hold
meanwhile.

A `Charge` keeps the pending distance too, but only as a number to count with. Here it drives a
robot, so the two are compared as interpreters (`Interpreter.InStep`). -/

namespace GridRobot

/-! ## Interpreters in step -/

/-- Two interpreters that take the same instructions from `matched` states, into states that match
again, and show the same in such states. What the states are made of may differ. -/
structure Interpreter.InStep {σ τ : Type} (i : Interpreter σ) (j : Interpreter τ)
    (matched : σ → τ → Prop) : Prop where
  generation : i.generation = j.generation
  step {s : σ} {t : τ} (instruction : Instruction) : matched s t →
    Option.Rel matched (i.step s instruction) (j.step t instruction)
  reading {s : σ} {t : τ} : matched s t → i.reading s = j.reading t

namespace Interpreter.InStep

variable {σ τ : Type} {i : Interpreter σ} {j : Interpreter τ} {matched : σ → τ → Prop}
  (inStep : i.InStep j matched) {s : σ} {t : τ}

include inStep

theorem advance (start : matched s t) (c : Char) : matched (i.advance s c) (j.advance t c) := by
  have both := inStep.step (.decode c) start
  rw [Interpreter.advance, Interpreter.advance]
  generalize i.step s (.decode c) = ours, j.step t (.decode c) = theirs at both
  cases both with
  | some next => exact next
  | none => exact start

theorem run (start : matched s t) (cs : List Char) : matched (i.run s cs) (j.run t cs) := by
  induction cs generalizing s t with
  | nil => exact start
  | cons c cs ih => exact ih (inStep.advance start c)

/-- All that comes of following a text but for the last state, of which no more than a match can be
said. -/
theorem follow (start : matched s t) (recordTrace : Bool) (index : Nat) (cs : List Char) :
    (i.follow recordTrace s index cs).report = (j.follow recordTrace t index cs).report
      ∧ (i.follow recordTrace s index cs).events = (j.follow recordTrace t index cs).events := by
  induction cs generalizing s t index with
  | nil => exact ⟨rfl, rfl⟩
  | cons c cs ih =>
    have both := inStep.step (.decode c) start
    rw [Interpreter.follow, Interpreter.follow]
    generalize i.step s (.decode c) = ours, j.step t (.decode c) = theirs at both
    cases both with
    | some next =>
      obtain ⟨report, events⟩ := ih next (index + 1)
      simp only [report, events, inStep.reading next, inStep.generation, and_self]
    | none =>
      obtain ⟨report, events⟩ := ih start (index + 1)
      simp only [report, events, inStep.generation]
      -- With or without a warning, which is the same for both.
      split
      · exact ⟨rfl, rfl⟩
      · exact ⟨rfl, rfl⟩

end Interpreter.InStep

/-! ## Robots with a pending boost -/

/-- A robot of the third generation in the midst of a text, with the distance that was burned for,
if it is still to be used. -/
structure PendingMk3 where
  robot : Mk3
  pending : Option UInt32 := none
  deriving DecidableEq, Repr

namespace PendingMk3

/-- How far the next forward move goes. -/
def distance (p : PendingMk3) : UInt32 :=
  p.pending.getD 1

/-- The state after a digit: what it burns is pending, in place of what was. -/
def engage (p : PendingMk3) (requested : UInt8) : PendingMk3 :=
  let burned := p.robot.burned requested
  ⟨{ p.robot with fuel := p.robot.fuel - burned }, some burned⟩

def step (p : PendingMk3) : Instruction → Option PendingMk3
  | .boost value => some (p.engage value)
  | .left => some { p with robot := { p.robot with orientation := p.robot.orientation.rotateLeft } }
  | .right =>
    some { p with robot := { p.robot with orientation := p.robot.orientation.rotateRight } }
  | .forward => some ⟨p.robot.drive p.distance.toNat, none⟩
  | .backward => some ⟨p.robot.drive (-1), none⟩
  | .unknown _ => none

def interpreter : Interpreter PendingMk3 where
  generation := .mk3
  step := step
  reading p := p.robot.reading

end PendingMk3

/-! ## The flag and the pending boost -/

namespace BoostedMk3

/-- The same robot, about to go as far with its next forward move. -/
structure Matches (s : BoostedMk3) (p : PendingMk3) : Prop where
  robot : s.robot = p.robot
  distance : s.boost.distance = p.distance

theorem matches_start (r : Mk3) : Matches { robot := r } { robot := r } :=
  ⟨rfl, rfl⟩

/-- Whatever the two fields are, they amount to one distance. -/
theorem matches_distance (r : Mk3) (boost : Boost) :
    Matches ⟨r, boost⟩ ⟨r, some boost.distance⟩ :=
  ⟨rfl, rfl⟩

theorem inStep : interpreter.InStep PendingMk3.interpreter Matches where
  generation := rfl
  reading matched := congrArg Mk3.reading matched.robot
  step {s p} instruction matched := by
    obtain ⟨robot, boost⟩ := s
    obtain ⟨_, pending⟩ := p
    obtain ⟨rfl, same⟩ := matched
    cases instruction with
    | forward =>
      refine .some ⟨?_, boost.settled_distance⟩
      change robot.drive boost.distance.toNat = robot.drive (PendingMk3.distance _).toNat
      rw [← same]
    | backward => exact .some ⟨rfl, boost.settled_distance⟩
    | left => exact .some ⟨rfl, same⟩
    | right => exact .some ⟨rfl, same⟩
    | boost value => exact .some ⟨rfl, rfl⟩
    | unknown => exact .none

theorem matches_run (r : Mk3) (cs : List Char) :
    Matches (interpreter.run { robot := r } cs) (PendingMk3.interpreter.run { robot := r } cs) :=
  inStep.run (matches_start r) cs

/-! ### What the two fields hold -/

/-- The flag tells whether a digit came before. The magnitude is what is pending; with nothing
pending it is left as it was at the start, or as the last move left it. -/
def fieldsAfter (before : List Char) (pending : Option UInt32) : Boost :=
  ⟨before.any Char.isDigit, pending.getD (if 'F' ∈ before ∨ 'B' ∈ before then 1 else 0)⟩

theorem fieldsAfter_move (before : List Char) {c : Char} (move : c = 'F' ∨ c = 'B')
    (pending : Option UInt32) :
    fieldsAfter (before ++ [c]) none = (fieldsAfter before pending).settled := by
  rcases move with rfl | rfl <;> simp [fieldsAfter, Boost.settled]

theorem fieldsAfter_digit (before : List Char) {c : Char} (isDigit : c.isDigit = true)
    (burned : UInt32) : fieldsAfter (before ++ [c]) (some burned) = ⟨true, burned⟩ := by
  simp [fieldsAfter, isDigit]

theorem fieldsAfter_other (before : List Char) {c : Char} (noDigit : c.isDigit = false)
    (notForward : c ≠ 'F') (notBackward : c ≠ 'B') (pending : Option UInt32) :
    fieldsAfter (before ++ [c]) pending = fieldsAfter before pending := by
  simp [fieldsAfter, noDigit, notForward.symm, notBackward.symm]

theorem advance_boost {s : BoostedMk3} {p : PendingMk3} (matched : s.Matches p)
    {before : List Char} (holds : s.boost = fieldsAfter before p.pending) (c : Char) :
    (interpreter.advance s c).boost
      = fieldsAfter (before ++ [c]) (PendingMk3.interpreter.advance p c).pending := by
  obtain ⟨instruction, decoded, reads⟩ := Instruction.exists_reads c
  rw [Interpreter.advance_of_decode decoded, Interpreter.advance_of_decode decoded]
  cases reads with
  | forward =>
    change s.boost.settled = fieldsAfter (before ++ ['F']) none
    rw [fieldsAfter_move before (.inl rfl) p.pending, holds]
  | backward =>
    change s.boost.settled = fieldsAfter (before ++ ['B']) none
    rw [fieldsAfter_move before (.inr rfl) p.pending, holds]
  | left | right =>
    change s.boost = fieldsAfter (before ++ [_]) p.pending
    rw [fieldsAfter_other before rfl (by decide) (by decide), holds]
  | digit isDigit =>
    change (⟨true, s.robot.burned _⟩ : Boost)
      = fieldsAfter (before ++ [c]) (some (p.robot.burned _))
    rw [fieldsAfter_digit before isDigit, matched.robot]
  | other noDigit notForward notBackward =>
    change s.boost = fieldsAfter (before ++ [c]) p.pending
    rw [fieldsAfter_other before noDigit notForward notBackward, holds]

theorem run_boost (r : Mk3) (cs : List Char) :
    (interpreter.run { robot := r } cs).boost
      = fieldsAfter cs (PendingMk3.interpreter.run { robot := r } cs).pending := by
  induction cs using List.reverseRecOn with
  | nil => rfl
  | append_singleton cs c ih =>
    rw [Interpreter.run_append, Interpreter.run_append]
    exact advance_boost (matches_run r cs) ih c

-- Both texts leave the fields alike, but nothing is pending after the backward move. There is no
-- telling from the fields what is pending, so states are matched by the distance alone.
example :
    let r : Mk3 := ⟨.origin, .forward, 9, 5, true⟩
    (interpreter.run { robot := r } "1".toList).boost = ⟨true, 1⟩
      ∧ (PendingMk3.interpreter.run { robot := r } "1".toList).pending = some 1
      ∧ (interpreter.run { robot := r } "42B".toList).boost = ⟨true, 1⟩
      ∧ (PendingMk3.interpreter.run { robot := r } "42B".toList).pending = none := by
  decide

end BoostedMk3

/-! ## Calls -/

namespace Mk3

/-- Follows a text by an interpreter whose states carry a robot, and sums the call up. -/
def executeWith {σ : Type} (i : Interpreter σ) (robot : σ → Mk3) (start : σ) (text : String) :
    Execution Mk3 :=
  let r := robot start
  let t := i.follow r.recordTrace start 0 text.toList
  let after := robot t.final
  let summary :=
    Summary.mk3 t.report.executed t.report.ignored after.position (r.fuel - after.fuel) after.fuel
  ⟨after, t.report, t.events ++ [.finished summary]⟩

/-- The call, but from a boost that may be left from elsewhere. -/
def executeFrom (r : Mk3) (boost : Boost) (text : String) : Execution Mk3 :=
  executeWith BoostedMk3.interpreter BoostedMk3.robot ⟨r, boost⟩ text

/-- The call without a flag, from what may be pending. -/
def executePending (r : Mk3) (pending : Option UInt32) (text : String) : Execution Mk3 :=
  executeWith PendingMk3.interpreter PendingMk3.robot ⟨r, pending⟩ text

theorem executeFrom_default (r : Mk3) (text : String) : r.executeFrom {} text = r.execute text :=
  rfl

/-- Interpreters in step make the same calls, down to the log. -/
theorem executeWith_of_inStep {σ τ : Type} {i : Interpreter σ} {j : Interpreter τ}
    {matched : σ → τ → Prop} (inStep : i.InStep j matched) {robot : σ → Mk3} {robot' : τ → Mk3}
    (same : ∀ {s t}, matched s t → robot s = robot' t) {s : σ} {t : τ} (start : matched s t)
    (text : String) : executeWith i robot s text = executeWith j robot' t text := by
  obtain ⟨report, events⟩ := inStep.follow start (robot s).recordTrace 0 text.toList
  have after : robot (i.follow (robot s).recordTrace s 0 text.toList).final
      = robot' (j.follow (robot s).recordTrace t 0 text.toList).final := by
    rw [Interpreter.follow_final, Interpreter.follow_final]
    exact same (inStep.run start text.toList)
  simp only [executeWith, ← same start, report, events, after]

theorem executeFrom_eq_executePending {r : Mk3} {boost : Boost} {pending : Option UInt32}
    (matched : BoostedMk3.Matches ⟨r, boost⟩ ⟨r, pending⟩) (text : String) :
    r.executeFrom boost text = r.executePending pending text :=
  executeWith_of_inStep BoostedMk3.inStep BoostedMk3.Matches.robot matched text

/-- **The flag is not observed.** A call that starts as if a digit and a move had come before is the
call itself: the robot, the report with all its steps, and the log. So is a call without a flag; and
from any boost, a call is that without a flag from the one distance that the boost amounts to.
After each character the robots are the same and about to go as far, and what they carry tells the
two fields. -/
theorem execute_flagless (r : Mk3) (text : String) :
    r.executeFrom {} text = r.execute text
      ∧ r.executeFrom ⟨true, 1⟩ text = r.executeFrom {} text
      ∧ r.executePending none text = r.executeFrom {} text
      ∧ (∀ boost : Boost,
          r.executePending (some boost.distance) text = r.executeFrom boost text)
      ∧ ∀ n : Nat,
          let before := text.toList.take n
          let s := BoostedMk3.interpreter.run { robot := r } before
          let p := PendingMk3.interpreter.run { robot := r } before
          s.robot = p.robot ∧ s.boost.distance = p.distance
            ∧ s.boost = BoostedMk3.fieldsAfter before p.pending := by
  have unboosted := executeFrom_eq_executePending (BoostedMk3.matches_start r) text
  refine ⟨r.executeFrom_default text, ?_, unboosted.symm, ?_, ?_⟩
  · -- The flag that is set beforehand still amounts to one unit, as does nothing pending.
    have flagged : BoostedMk3.Matches ⟨r, ⟨true, 1⟩⟩ ⟨r, none⟩ := ⟨rfl, rfl⟩
    rw [executeFrom_eq_executePending flagged, unboosted]
  · intro boost
    exact (executeFrom_eq_executePending (BoostedMk3.matches_distance r boost) text).symm
  · intro n before s p
    have matched := BoostedMk3.matches_run r before
    exact ⟨matched.robot, matched.distance, BoostedMk3.run_boost r before⟩

end Mk3
end GridRobot
