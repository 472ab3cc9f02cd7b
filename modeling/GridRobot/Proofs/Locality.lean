import GridRobot.Proofs.Reflection
import GridRobot.Proofs.Script.Joining
import GridRobot.Proofs.Trace

/-! # What one step may change

A robot that knows the walls is in the quadrant from the start and stays there, and each of its
steps changes little: a turn changes the facing, a digit the fuel, and a move one coordinate, by no
more than the move is long (`afterAll_local`).

A move is clamped on both axes, so that it leaves the other axis alone is no matter of course. It
holds because the robot was in the quadrant before, and so the invariant comes first. Steps are
compared with what the robot showed right before them (`transitions`). -/

namespace GridRobot

/-! ## One move in the quadrant -/

theorem bounded_zero {c : Int} (nonneg : 0 ≤ c) (most : c ≤ greatestCoordinate) :
    bounded c 0 = c := by
  unfold bounded
  omega

/-- A wall can only cut a move short, for what it keeps from the robot lies beyond the wall. -/
theorem abs_bounded_sub_le {c : Int} (nonneg : 0 ≤ c) (most : c ≤ greatestCoordinate) (d : Int) :
    |bounded c d - c| ≤ |d| := by
  unfold bounded
  rcases abs_cases d with ⟨length, _⟩ | ⟨length, _⟩
  · rw [length, abs_le]
    omega
  · rw [length, abs_le]
    omega

namespace Axis

/-- The axis at a right angle. -/
def other : Axis → Axis
  | x => y
  | y => x

theorem coordinate_le (axis : Axis) (p : Position) : axis.coordinate p ≤ greatestCoordinate := by
  cases axis with
  | x => exact p.x.le_greatest
  | y => exact p.y.le_greatest

theorem coordinate_nonneg (axis : Axis) {p : Position} (inside : p.InQuadrant) :
    0 ≤ axis.coordinate p := by
  cases axis with
  | x => exact inside.1
  | y => exact inside.2

end Axis

/-- The axis that a facing lies on. -/
def Orientation.axis : Orientation → Axis
  | forward | backward => .y
  | left | right => .x

namespace Position

/-- The axis across is clamped too, but there is nothing to clamp on it. -/
theorem coordinate_drive_across {p : Position} (inside : p.InQuadrant) (facing : Orientation)
    (distance : Int) :
    facing.axis.other.coordinate (p.drive facing distance)
      = facing.axis.other.coordinate p := by
  have still : facing.axis.other.component (facing.delta.1 * distance, facing.delta.2 * distance)
      = 0 := by
    cases facing <;> exact Int.zero_mul distance
  rw [drive_eq_stride, Axis.coordinate_stride, still]
  exact bounded_zero (Axis.coordinate_nonneg _ inside) (Axis.coordinate_le _ p)

theorem abs_coordinate_drive_sub_le {p : Position} (inside : p.InQuadrant) (facing : Orientation)
    (distance : Int) :
    |facing.axis.coordinate (p.drive facing distance) - facing.axis.coordinate p|
      ≤ |distance| := by
  have length : |facing.axis.component (facing.delta.1 * distance, facing.delta.2 * distance)|
      = |distance| := by
    cases facing <;> simp [Orientation.axis, Axis.component, Orientation.delta]
  rw [drive_eq_stride, Axis.coordinate_stride, ← length]
  exact abs_bounded_sub_le (Axis.coordinate_nonneg _ inside) (Axis.coordinate_le _ p) _

theorem foldl_stride_inQuadrant {p : Position} (inside : p.InQuadrant) (ds : List (Int × Int)) :
    (ds.foldl stride p).InQuadrant := by
  induction ds generalizing p with
  | nil => exact inside
  | cons d ds ih => exact ih (clamped_inQuadrant _)

end Position

/-! ## The invariant -/

namespace Mk2

theorem run_inQuadrant {r : Mk2} (inside : r.position.InQuadrant) (cs : List Char) :
    (interpreter.run r cs).position.InQuadrant := by
  rw [run_position r 0]
  exact Position.foldl_stride_inQuadrant inside _

end Mk2

namespace BoostedMk3

theorem run_inQuadrant {r : Mk3} (inside : r.position.InQuadrant) (cs : List Char) :
    (interpreter.run { robot := r } cs).robot.position.InQuadrant := by
  rw [run_position (carries_start r)]
  exact Position.foldl_stride_inQuadrant inside _

end BoostedMk3

namespace Robot

variable {robot : Robot}

theorem spawn_inQuadrant {generation : Generation} (walled : generation ≠ .mk1) (start : Position)
    (config : Config) : (spawn generation start config).position.InQuadrant := by
  cases generation with
  | mk1 => exact absurd rfl walled
  | mk2 => exact start.clamped_inQuadrant
  | mk3 => exact start.clamped_inQuadrant

theorem execute_inQuadrant (walled : robot.generation ≠ .mk1)
    (inside : robot.position.InQuadrant) (text : String) :
    (robot.execute text).robot.position.InQuadrant := by
  rw [robot.execute_position walled]
  exact Position.foldl_stride_inQuadrant inside _

theorem afterAll_generation (robot : Robot) (texts : List String) :
    (afterAll execute robot texts).generation = robot.generation :=
  afterAll_unchanged generation execute_generation robot texts

theorem afterAll_inQuadrant (walled : robot.generation ≠ .mk1)
    (inside : robot.position.InQuadrant) (texts : List String) :
    (afterAll execute robot texts).position.InQuadrant := by
  -- That the robot has walls is a part of the invariant, for the next call needs it again.
  refine (afterAll_invariant (fun r : Robot => r.generation ≠ .mk1 ∧ r.position.InQuadrant) ?_
    ⟨walled, inside⟩ texts).2
  rintro r text ⟨walled, inside⟩
  exact ⟨r.execute_generation text ▸ walled, execute_inQuadrant walled inside text⟩

/-- A step shows a robot that stopped there, so it shows it in the quadrant. -/
theorem execute_steps_inQuadrant (walled : robot.generation ≠ .mk1)
    (inside : robot.position.InQuadrant) (text : String) :
    ∀ step ∈ (robot.execute text).report.steps, step.position.InQuadrant := by
  intro step member
  cases traced : robot.recordTrace with
  | true =>
    rw [robot.execute_report_steps traced] at member
    obtain ⟨⟨c, index⟩, -, rfl⟩ := List.mem_map.mp member
    exact execute_inQuadrant walled inside _
  | false =>
    rw [robot.execute_steps_of_untraced traced] at member
    cases member

end Robot

/-! ## Steps and what was shown before them -/

/-- Each step, after what the robot showed right before it: at the start or in the step before. -/
def transitions : Reading → List Step → List (Reading × Step)
  | _, [] => []
  | before, step :: steps => (before, step) :: transitions step.toReading steps

theorem transitions_delayed (before : Reading) (n : Nat) (steps : List Step) :
    transitions before (steps.map (.delayed n))
      = (transitions before steps).map fun (before, step) => (before, step.delayed n) := by
  induction steps generalizing before with
  | nil => rfl
  | cons step steps ih =>
    rw [List.map_cons, transitions, transitions, List.map_cons, ← ih]
    rfl

namespace Interpreter

variable {σ : Type} {i : Interpreter σ} (takes : i.TakesUnderstood)

include takes

/-- What was shown right before a step is what the robot shows in the state before its character,
whatever was ignored in between. -/
theorem report_transitions (state : σ) (cs : List Char) :
    transitions (i.reading state) (i.report true state cs).steps
      = (i.generation.understood cs).map fun (c, index) =>
          (i.reading (i.run state (cs.take index)),
            { i.reading (i.run state (cs.take (index + 1))) with
              index, instruction := .decode c }) := by
  induction cs generalizing state with
  | nil => rfl
  | cons c cs ih =>
    have later : transitions (i.reading (i.advance state c))
          ((i.report true (i.advance state c) cs).delayed 1).steps
        = ((i.generation.understood cs).map fun (d, index) => (d, index + 1)).map
            fun (d, index) =>
              (i.reading (i.run state ((c :: cs).take index)),
                { i.reading (i.run state ((c :: cs).take (index + 1))) with
                  index, instruction := .decode d }) := by
      rw [Report.delayed, transitions_delayed, ih, List.map_map, List.map_map]
      rfl
    rw [report_cons takes, Report.steps_append, Generation.understood, located_cons,
      List.map_append, ← Generation.understood, ← later]
    cases understood : i.generation.understands (.decode c) with
    | true => rw [Generation.noted_of_understood _ _ understood]; rfl
    | false =>
      rw [Generation.noted_of_ignored _ _ understood, advance_of_ignored takes understood]
      rfl

theorem mem_report_transitions {recordTrace : Bool} {state : σ} {cs : List Char}
    {pair : Reading × Step}
    (member : pair ∈ transitions (i.reading state) (i.report recordTrace state cs).steps) :
    ∃ c index, i.generation.understands (.decode c) = true
      ∧ pair = (i.reading (i.run state (cs.take index)),
          { i.reading (i.advance (i.run state (cs.take index)) c) with
            index, instruction := .decode c }) := by
  cases recordTrace with
  | false =>
    rw [report_steps_of_untraced takes] at member
    cases member
  | true =>
    rw [report_transitions takes] at member
    obtain ⟨⟨c, index⟩, among, rfl⟩ := List.mem_map.mp member
    obtain ⟨inText, understood⟩ := List.mem_filter.mp among
    refine ⟨c, index, understood, ?_⟩
    have last : cs.take (index + 1) = cs.take index ++ [c] := by
      rw [List.take_add_one, List.mem_zipIdx_iff_getElem?.mp inText]
      rfl
    simp only [last, run_append, run_cons, run_nil]

end Interpreter

/-! ## What a step leaves alone -/

namespace Instruction

def isTurn : Instruction → Bool
  | left | right => true
  | _ => false

def isMove : Instruction → Bool
  | forward | backward => true
  | _ => false

def isBoost : Instruction → Bool
  | boost _ => true
  | _ => false

end Instruction

/-- A step that changes what its instruction is about and nothing else. `reach` is how far a
forward move may go. -/
structure Step.Local (reach : Nat) (before : Reading) (step : Step) : Prop where
  position : step.instruction.isMove = false → step.position = before.position
  orientation : step.instruction.isTurn = false → step.orientation = before.orientation
  fuel : step.instruction.isBoost = false → step.fuel = before.fuel
  move : step.instruction.isMove = true →
    ∃ facing, before.orientation = some facing
      ∧ facing.axis.other.coordinate step.position
        = facing.axis.other.coordinate before.position
      ∧ |facing.axis.coordinate step.position - facing.axis.coordinate before.position|
        ≤ if step.instruction = .forward then (reach : Int) else 1

namespace Step

variable {reach : Nat} {before : Reading} {step : Step}

theorem local_of_turn (turn : step.instruction.isTurn = true)
    (position : step.position = before.position) (fuel : step.fuel = before.fuel) :
    Local reach before step where
  position _ := position
  orientation noTurn := absurd turn (by rw [noTurn]; exact Bool.false_ne_true)
  fuel _ := fuel
  move move := by
    cases instruction : step.instruction <;> rw [instruction] at turn move <;> contradiction

theorem local_of_boost (boost : step.instruction.isBoost = true)
    (position : step.position = before.position)
    (orientation : step.orientation = before.orientation) : Local reach before step where
  position _ := position
  orientation _ := orientation
  fuel noBoost := absurd boost (by rw [noBoost]; exact Bool.false_ne_true)
  move move := by
    cases instruction : step.instruction <;> rw [instruction] at boost move <;> contradiction

theorem local_of_drive {facing : Orientation} {distance : Int}
    (move : step.instruction.isMove = true) (inside : before.position.InQuadrant)
    (faces : before.orientation = some facing)
    (position : step.position = before.position.drive facing distance)
    (orientation : step.orientation = before.orientation) (fuel : step.fuel = before.fuel)
    (within : |distance| ≤ if step.instruction = .forward then (reach : Int) else 1) :
    Local reach before step where
  position noMove := absurd move (by rw [noMove]; exact Bool.false_ne_true)
  orientation _ := orientation
  fuel _ := fuel
  move _ := by
    rw [position]
    exact ⟨facing, faces, Position.coordinate_drive_across inside facing distance,
      (Position.abs_coordinate_drive_sub_le inside facing distance).trans within⟩

end Step

/-! ### One character -/

theorem Mk2.advance_local {r : Mk2} (inside : r.position.InQuadrant) {c : Char}
    (understood : Generation.mk2.understands (.decode c) = true) (index : Nat) :
    Step.Local 1 r.reading
      { (interpreter.advance r c).reading with index, instruction := .decode c } := by
  obtain ⟨instruction, decoded, reads⟩ := Instruction.exists_reads c
  rw [decoded] at understood ⊢
  cases reads with
  | forward => exact Step.local_of_drive rfl inside rfl rfl rfl rfl le_rfl
  | backward => exact Step.local_of_drive rfl inside rfl rfl rfl rfl le_rfl
  | left => exact Step.local_of_turn rfl rfl rfl
  | right => exact Step.local_of_turn rfl rfl rfl
  | digit => cases understood
  | other => cases understood

theorem BoostedMk3.advance_local {s : BoostedMk3} (inside : s.robot.position.InQuadrant) {c : Char}
    (understood : Generation.mk3.understands (.decode c) = true) (index : Nat) :
    Step.Local s.boost.distance.toNat s.robot.reading
      { (interpreter.advance s c).robot.reading with index, instruction := .decode c } := by
  obtain ⟨instruction, decoded, reads⟩ := Instruction.exists_reads c
  rw [decoded] at understood ⊢
  cases reads with
  | forward =>
    exact Step.local_of_drive rfl inside rfl rfl rfl rfl (Nat.abs_cast s.boost.distance.toNat).le
  | backward => exact Step.local_of_drive rfl inside rfl rfl rfl rfl le_rfl
  | left => exact Step.local_of_turn rfl rfl rfl
  | right => exact Step.local_of_turn rfl rfl rfl
  | digit =>
    rw [advance_digit s decoded]
    exact Step.local_of_boost rfl rfl rfl
  | other => cases understood

/-! ## Whole executions -/

namespace Robot

/-- How far a forward move may go at an index of a text: as far as the boost that is pending there,
or one unit if none is. -/
def reach : Robot → String → Nat → Nat
  | mk1 _, _, _ => 1
  | mk2 _, _, _ => 1
  | mk3 r, text, index =>
    (Charge.after r.maxBoost.toNat { fuel := r.fuel.toNat } (text.toList.take index)).distance

theorem execute_local {robot : Robot} (walled : robot.generation ≠ .mk1)
    (inside : robot.position.InQuadrant) (text : String) :
    ∀ pair ∈ transitions robot.reading (robot.execute text).report.steps,
      pair.2.Local (robot.reach text pair.2.index) pair.1 := by
  intro pair member
  cases robot with
  | mk1 r => exact absurd rfl walled
  | mk2 r =>
    obtain ⟨c, index, understood, rfl⟩ :=
      Interpreter.mem_report_transitions Mk2.takesUnderstood member
    exact Mk2.advance_local (Mk2.run_inQuadrant inside _) understood index
  | mk3 r =>
    change pair ∈ transitions (BoostedMk3.interpreter.reading { robot := r }) _ at member
    obtain ⟨c, index, understood, rfl⟩ :=
      Interpreter.mem_report_transitions BoostedMk3.takesUnderstood member
    -- The pending boost is told by the characters before, as a charge keeps it.
    have carries := BoostedMk3.carries_run (BoostedMk3.carries_start r) (text.toList.take index)
    have inside := BoostedMk3.run_inQuadrant (r := r) inside (text.toList.take index)
    have atIndex := BoostedMk3.advance_local inside understood index
    rw [carries.distance] at atIndex
    exact atIndex

end Robot

/-- **Locality.** After any calls a robot with walls stands in the quadrant. So it does at each step
of the next call, and that step changes what its instruction is about and nothing else. -/
theorem afterAll_local (generation : Generation) (walled : generation ≠ .mk1) (start : Position)
    (config : Config) (texts : List String) (text : String) :
    let robot := afterAll Robot.execute (Robot.spawn generation start config) texts
    let steps := (robot.execute text).report.steps
    robot.position.InQuadrant
      ∧ (∀ step ∈ steps, step.position.InQuadrant)
      ∧ ∀ pair ∈ transitions robot.reading steps,
          pair.2.Local (robot.reach text pair.2.index) pair.1 := by
  intro robot steps
  have spawned : (Robot.spawn generation start config).generation ≠ .mk1 := by
    rwa [Robot.spawn_generation]
  have stays : robot.generation ≠ .mk1 := by
    rwa [Robot.afterAll_generation]
  have inside : robot.position.InQuadrant :=
    Robot.afterAll_inQuadrant spawned (Robot.spawn_inQuadrant walled start config) texts
  exact ⟨inside, Robot.execute_steps_inQuadrant stays inside text,
    Robot.execute_local stays inside text⟩

/-- A start far outside the quadrant, and a boost that is pending over a turn. -/
theorem afterAll_local_fromOutside :
    let start : Position := ⟨⟨leastCoordinate, by decide, by decide⟩, { val := -7 }⟩
    let robot :=
      afterAll Robot.execute (Robot.spawn .mk3 start { recordTrace := true }) ["R9F", "4"]
    let steps := (robot.execute "3éL9RFB").report.steps
    Generation.mk3 ≠ .mk1
      ∧ robot.position = ⟨{ val := 5 }, .zero⟩
      ∧ steps.map Step.index = [0, 2, 3, 4, 5, 6]
      ∧ robot.reach "3éL9RFB" 5 = 5
      ∧ robot.position.InQuadrant
      ∧ (∀ step ∈ steps, step.position.InQuadrant)
      ∧ ∀ pair ∈ transitions robot.reading steps,
          pair.2.Local (robot.reach "3éL9RFB" pair.2.index) pair.1 := by
  intro start robot steps
  have walled : Generation.mk3 ≠ .mk1 := by decide
  exact ⟨walled, by decide, by decide, by decide,
    afterAll_local .mk3 walled start { recordTrace := true } ["R9F", "4"] "3éL9RFB"⟩

end GridRobot
