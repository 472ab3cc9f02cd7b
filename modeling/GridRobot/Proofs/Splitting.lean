import GridRobot.Proofs.Comparing
import GridRobot.Proofs.FuelAccounting
import GridRobot.Proofs.Reflection

/-! # Splitting a text

A text in two parts may be followed in two calls instead of one. Robots of the first two
generations carry nothing from one character to the next but what they show, so nobody can tell
(`execute_append`). A robot of the third generation drops its boost at the end of a call. That is
seen in its position alone, and only if a boost is pending where the text is split
(`leavesBoost`) and the first move of the second part is the one to use it up (`takesBoost`).

The two runs of the second part start from states that differ in the boost. `BoostedMk3.Alike`
relates such states for as long as the difference cannot be observed. -/

namespace GridRobot

/-! ## Boosts across the split -/

/-- Sets a boost or uses it up. -/
def concernsBoost (c : Char) : Bool :=
  c.isDigit || c == 'F' || c == 'B'

/-- A boost is pending at the end: of the characters that concern boosts, the last is a digit. -/
def leavesBoost (cs : List Char) : Bool :=
  (cs.filter concernsBoost).getLast?.any Char.isDigit

/-- A boost from before would be used: of the characters that concern boosts, the first is a
forward move. -/
def takesBoost (cs : List Char) : Bool :=
  (cs.filter concernsBoost).head? == some 'F'

theorem concernsBoost_of_isDigit {c : Char} (isDigit : c.isDigit = true) :
    concernsBoost c = true := by
  simp [concernsBoost, isDigit]

theorem concernsBoost_other {c : Char} (noDigit : c.isDigit = false) (notForward : c ≠ 'F')
    (notBackward : c ≠ 'B') : concernsBoost c = false := by
  simp [concernsBoost, noDigit, notForward, notBackward]

theorem leavesBoost_concat (cs : List Char) (c : Char) :
    leavesBoost (cs ++ [c]) = if concernsBoost c then c.isDigit else leavesBoost cs := by
  unfold leavesBoost
  cases concerns : concernsBoost c <;> simp [List.filter_append, concerns]

theorem takesBoost_cons (c : Char) (cs : List Char) :
    takesBoost (c :: cs) = if concernsBoost c then c == 'F' else takesBoost cs := by
  unfold takesBoost
  cases concerns : concernsBoost c <;> simp [concerns]

namespace BoostedMk3

/-- Where no boost is left pending, the next move goes one unit, as it does at the start of a
call. -/
theorem run_distance (r : Mk3) {cs : List Char} (spent : leavesBoost cs = false) :
    (interpreter.run { robot := r } cs).boost.distance = 1 := by
  induction cs using List.reverseRecOn with
  | nil => rfl
  | append_singleton cs c ih =>
    rw [leavesBoost_concat] at spent
    rw [Interpreter.run_append, Interpreter.run_cons, Interpreter.run_nil]
    obtain ⟨instruction, decoded, reads⟩ := Instruction.exists_reads c
    cases reads with
    | forward => exact Boost.settled_distance _
    | backward => exact Boost.settled_distance _
    | left => exact ih spent
    | right => exact ih spent
    | digit isDigit =>
      rw [concernsBoost_of_isDigit isDigit, if_pos rfl, isDigit] at spent
      cases spent
    | other noDigit notForward notBackward =>
      rw [concernsBoost_other noDigit notForward notBackward, if_neg Bool.false_ne_true] at spent
      rw [advance_other _ decoded]
      exact ih spent

/-- States that cannot be told apart by what they do with `cs`. -/
structure Alike (s t : BoostedMk3) (cs : List Char) : Prop where
  robot : s.robot = t.robot
  boost : s.boost.distance = t.boost.distance ∨ takesBoost cs = false

theorem alike_advance {s t : BoostedMk3} {c : Char} {cs : List Char} (alike : Alike s t (c :: cs)) :
    Alike (interpreter.advance s c) (interpreter.advance t c) cs := by
  obtain ⟨robot, boost⟩ := s
  obtain ⟨_, boost'⟩ := t
  obtain ⟨rfl, same⟩ := alike
  rw [takesBoost_cons] at same
  obtain ⟨instruction, decoded, reads⟩ := Instruction.exists_reads c
  cases reads with
  -- The one instruction that reads the boost. Like every move it leaves none behind.
  | forward =>
    have distances : boost.distance = boost'.distance := same.resolve_right Bool.noConfusion
    refine ⟨?_, .inl ?_⟩
    · change robot.drive boost.distance.toNat = robot.drive boost'.distance.toNat
      rw [distances]
    · exact (Boost.settled_distance _).trans (Boost.settled_distance _).symm
  | backward =>
    exact ⟨rfl, .inl ((Boost.settled_distance _).trans (Boost.settled_distance _).symm)⟩
  | left => exact ⟨rfl, same⟩
  | right => exact ⟨rfl, same⟩
  -- A digit overrides whatever boost there was.
  | digit isDigit =>
    rw [advance_digit _ decoded, advance_digit _ decoded]
    exact ⟨rfl, .inl rfl⟩
  | other noDigit notForward notBackward =>
    rw [concernsBoost_other noDigit notForward notBackward, if_neg Bool.false_ne_true] at same
    rw [advance_other _ decoded, advance_other _ decoded]
    exact ⟨rfl, same⟩

theorem alike_simulation : interpreter.Simulation Alike Eq where
  advance := alike_advance
  reading alike := congrArg Mk3.reading alike.robot

theorem alike_run {s t : BoostedMk3} {cs : List Char} (alike : Alike s t cs) :
    Alike (interpreter.run s cs) (interpreter.run t cs) [] := by
  rw [← List.append_nil cs] at alike
  exact alike_simulation.run [] alike

theorem report_of_alike {s t : BoostedMk3} {cs : List Char} (alike : Alike s t cs)
    (recordTrace : Bool) :
    interpreter.report recordTrace s cs = interpreter.report recordTrace t cs := by
  rw [← List.append_nil cs] at alike
  exact Report.eq_of_related id (alike_simulation.report [] takesUnderstood recordTrace alike)

/-- Where a text is split: the state of the one call, and the state that a second call starts
from. -/
theorem alike_split (r : Mk3) {cs ds : List Char}
    (free : leavesBoost cs = false ∨ takesBoost ds = false) :
    Alike (interpreter.run { robot := r } cs)
      { robot := (interpreter.run { robot := r } cs).robot } ds where
  robot := rfl
  boost := free.imp_left fun spent => run_distance r spent

theorem run_orientation (s : BoostedMk3) (cs : List Char) :
    (interpreter.run s cs).robot.orientation
      = cs.foldl Orientation.turned s.robot.orientation := by
  induction cs generalizing s with
  | nil => rfl
  | cons c cs ih => rw [Interpreter.run_cons, ih, advance_orientation, List.foldl_cons]

end BoostedMk3

theorem Mk2.execute_orientation (r : Mk2) (text : String) :
    (r.execute text).robot.orientation
      = text.toList.foldl Orientation.turned r.orientation := by
  rw [execute_robot]
  generalize text.toList = cs
  induction cs generalizing r with
  | nil => rfl
  | cons c cs ih => rw [Interpreter.run_cons, ih, advance_orientation, List.foldl_cons]

/-! ## Robots that carry nothing else -/

/-- Robots that are all there is to their state while they follow a text. -/
structure SelfContained {ρ : Type} (i : Interpreter ρ) (recordTrace : ρ → Bool)
    (execute : ρ → String → Execution ρ) : Prop where
  takes : i.TakesUnderstood
  keeps (r : ρ) (c : Char) : recordTrace (i.advance r c) = recordTrace r
  robot (r : ρ) (text : String) : (execute r text).robot = i.run r text.toList
  report (r : ρ) (text : String) :
    (execute r text).report = i.report (recordTrace r) r text.toList

namespace SelfContained

variable {ρ : Type} {i : Interpreter ρ} {recordTrace : ρ → Bool}
  {execute : ρ → String → Execution ρ} (contained : SelfContained i recordTrace execute)

include contained

theorem execute_append_robot (r : ρ) (a b : String) :
    (execute r (a ++ b)).robot = (execute (execute r a).robot b).robot := by
  simp only [contained.robot, String.toList_append, Interpreter.run_append]

theorem execute_append_report (r : ρ) (a b : String) :
    (execute r (a ++ b)).report
      = (execute r a).report ++ (execute (execute r a).robot b).report.delayed a.length := by
  have traced : recordTrace (i.run r a.toList) = recordTrace r :=
    i.run_unchanged recordTrace contained.keeps r a.toList
  simp only [contained.report, contained.robot, traced, String.toList_append,
    Interpreter.report_append contained.takes, String.length_toList]

end SelfContained

theorem Mk1.selfContained : SelfContained interpreter recordTrace execute where
  takes := takesUnderstood
  keeps r c := by
    rw [Interpreter.advance]
    cases Instruction.decode c <;> rfl
  robot := execute_robot
  report _ _ := rfl

theorem Mk2.selfContained : SelfContained interpreter recordTrace execute where
  takes := takesUnderstood
  keeps r c := by
    rw [Interpreter.advance]
    cases Instruction.decode c <;> rfl
  robot := execute_robot
  report _ _ := rfl

/-! ## Robots that drop their boost -/

theorem BoostedMk3.run_recordTrace (s : BoostedMk3) (cs : List Char) :
    (interpreter.run s cs).robot.recordTrace = s.robot.recordTrace := by
  refine interpreter.run_unchanged (fun t => t.robot.recordTrace) ?_ s cs
  intro t c
  rw [Interpreter.advance]
  cases Instruction.decode c <;> rfl

namespace Mk3

open BoostedMk3 (interpreter alike_split alike_run report_of_alike)

theorem execute_append_robot (r : Mk3) {a b : String}
    (free : leavesBoost a.toList = false ∨ takesBoost b.toList = false) :
    (r.execute (a ++ b)).robot = ((r.execute a).robot.execute b).robot := by
  simp only [execute_robot, String.toList_append, Interpreter.run_append]
  exact (alike_run (alike_split r free)).robot

/-- The report of the one call, with the second part followed from the state that the first part
ends in. -/
theorem execute_append_eq (r : Mk3) (a b : String) :
    (r.execute (a ++ b)).report
      = (r.execute a).report
        ++ (interpreter.report r.recordTrace (interpreter.run { robot := r } a.toList)
            b.toList).delayed a.length := by
  change interpreter.report r.recordTrace { robot := r } (a ++ b).toList = _
  rw [String.toList_append, Interpreter.report_append BoostedMk3.takesUnderstood,
    String.length_toList]
  rfl

/-- The report of the second call. -/
theorem execute_execute_report (r : Mk3) (a b : String) :
    ((r.execute a).robot.execute b).report
      = interpreter.report r.recordTrace
          { robot := (interpreter.run { robot := r } a.toList).robot } b.toList := by
  change interpreter.report (r.execute a).robot.recordTrace { robot := (r.execute a).robot }
    b.toList = _
  rw [execute_robot, BoostedMk3.run_recordTrace]

theorem execute_append_report (r : Mk3) {a b : String}
    (free : leavesBoost a.toList = false ∨ takesBoost b.toList = false) :
    (r.execute (a ++ b)).report
      = (r.execute a).report ++ ((r.execute a).robot.execute b).report.delayed a.length := by
  rw [execute_append_eq, execute_execute_report, report_of_alike (alike_split r free)]

theorem execute_append_untraced (r : Mk3) (a b : String) :
    (r.execute (a ++ b)).report.untraced
      = ((r.execute a).report
          ++ ((r.execute a).robot.execute b).report.delayed a.length).untraced := by
  have second (s : BoostedMk3) :
      ((interpreter.report r.recordTrace s b.toList).delayed a.length).untraced
        = (Generation.mk3.tally b.toList).delayed a.length :=
    congrArg (Report.delayed a.length)
      (Interpreter.report_untraced BoostedMk3.takesUnderstood r.recordTrace s b.toList)
  rw [execute_append_eq, execute_execute_report, Report.untraced_append, Report.untraced_append,
    second, second]

theorem execute_orientation (r : Mk3) (text : String) :
    (r.execute text).robot.orientation
      = text.toList.foldl Orientation.turned r.orientation := by
  rw [execute_robot, BoostedMk3.run_orientation]

theorem execute_append_orientation (r : Mk3) (a b : String) :
    (r.execute (a ++ b)).robot.orientation
      = ((r.execute a).robot.execute b).robot.orientation := by
  simp only [execute_orientation, String.toList_append, List.foldl_append]

theorem execute_append_fuel (r : Mk3) (a b : String) :
    (r.execute (a ++ b)).robot.fuel = ((r.execute a).robot.execute b).robot.fuel := by
  apply UInt32.toNat_inj.mp
  simp only [execute_fuel, execute_maxBoost, String.toList_append, digitsOf_append, demand_append]
  omega

end Mk3

/-! ## Any generation -/

namespace Robot

theorem execute_append_robot (robot : Robot) {a b : String}
    (free : robot.generation = .mk3 → leavesBoost a.toList = false ∨ takesBoost b.toList = false) :
    (robot.execute (a ++ b)).robot = ((robot.execute a).robot.execute b).robot := by
  cases robot with
  | mk1 r => exact congrArg mk1 (Mk1.selfContained.execute_append_robot r a b)
  | mk2 r => exact congrArg mk2 (Mk2.selfContained.execute_append_robot r a b)
  | mk3 r => exact congrArg mk3 (r.execute_append_robot (free rfl))

theorem execute_append_report (robot : Robot) {a b : String}
    (free : robot.generation = .mk3 → leavesBoost a.toList = false ∨ takesBoost b.toList = false) :
    (robot.execute (a ++ b)).report
      = (robot.execute a).report
        ++ ((robot.execute a).robot.execute b).report.delayed a.length := by
  cases robot with
  | mk1 r => exact Mk1.selfContained.execute_append_report r a b
  | mk2 r => exact Mk2.selfContained.execute_append_report r a b
  | mk3 r => exact r.execute_append_report (free rfl)

theorem execute_append_untraced (robot : Robot) (a b : String) :
    (robot.execute (a ++ b)).report.untraced
      = ((robot.execute a).report
          ++ ((robot.execute a).robot.execute b).report.delayed a.length).untraced := by
  cases robot with
  | mk1 r => exact congrArg Report.untraced (Mk1.selfContained.execute_append_report r a b)
  | mk2 r => exact congrArg Report.untraced (Mk2.selfContained.execute_append_report r a b)
  | mk3 r => exact r.execute_append_untraced a b

theorem execute_append_orientation (robot : Robot) (a b : String) :
    (robot.execute (a ++ b)).robot.reading.orientation
      = ((robot.execute a).robot.execute b).robot.reading.orientation := by
  cases robot with
  | mk1 r => rfl
  | mk2 r => exact congrArg (some ·.orientation) (Mk2.selfContained.execute_append_robot r a b)
  | mk3 r => exact congrArg some (r.execute_append_orientation a b)

theorem execute_append_fuel (robot : Robot) (a b : String) :
    (robot.execute (a ++ b)).robot.reading.fuel
      = ((robot.execute a).robot.execute b).robot.reading.fuel := by
  cases robot with
  | mk1 r => rfl
  | mk2 r => rfl
  | mk3 r => exact congrArg some (r.execute_append_fuel a b)

end Robot

/-- **One call or two.** What the one call counts, ignores, warns of and burns, and how the robot
faces in the end, is the same always. So is everything else, unless a pending boost is cut off from
the move that uses it. -/
theorem execute_append (robot : Robot) (a b : String) :
    let whole := robot.execute (a ++ b)
    let first := robot.execute a
    let second := first.robot.execute b
    whole.report.executed = first.report.executed + second.report.executed
      ∧ whole.report.ignored = first.report.ignored + second.report.ignored
      ∧ whole.report.warnings
        = first.report.warnings ++ second.report.warnings.map (.delayed a.length)
      ∧ whole.robot.reading.orientation = second.robot.reading.orientation
      ∧ whole.robot.reading.fuel = second.robot.reading.fuel
      ∧ ((robot.generation = .mk3
            → leavesBoost a.toList = false ∨ takesBoost b.toList = false) →
          whole.robot = second.robot
            ∧ whole.report.steps
              = first.report.steps ++ second.report.steps.map (.delayed a.length)) := by
  intro whole first second
  have untraced := robot.execute_append_untraced a b
  refine ⟨congrArg Report.executed untraced, congrArg Report.ignored untraced,
    congrArg Report.warnings untraced, robot.execute_append_orientation a b,
    robot.execute_append_fuel a b, ?_⟩
  intro free
  exact ⟨robot.execute_append_robot free, congrArg Report.steps (robot.execute_append_report free)⟩

/-- A robot of the third generation with a tank that the text below empties. -/
def thirstyMk3 : Robot :=
  .mk3 ⟨.origin, .right, 6, 5, true⟩

/-- The boost that is pending at the split is overridden before the first forward move. -/
theorem execute_append_overridden :
    leavesBoost "Fé4L".toList = true ∧ takesBoost "R9F".toList = false
      ∧ (thirstyMk3.execute ("Fé4L" ++ "R9F")).robot
        = ((thirstyMk3.execute "Fé4L").robot.execute "R9F").robot
      ∧ (thirstyMk3.execute ("Fé4L" ++ "R9F")).report.steps
        = (thirstyMk3.execute "Fé4L").report.steps
          ++ ((thirstyMk3.execute "Fé4L").robot.execute "R9F").report.steps.map (.delayed 4) := by
  obtain ⟨-, -, -, -, -, same⟩ := execute_append thirstyMk3 "Fé4L" "R9F"
  obtain ⟨robot, steps⟩ := same fun _ => .inr (by decide)
  exact ⟨by decide, by decide, robot, steps⟩

-- A boost that the first forward move would use is lost in the split.
example :
    (thirstyMk3.execute ("4" ++ "F")).robot
      ≠ ((thirstyMk3.execute "4").robot.execute "F").robot := by
  decide

end GridRobot
