import GridRobot.Proofs.Narrowing
import GridRobot.Proofs.Comparing
import GridRobot.Proofs.Trace
import GridRobot.Proofs.Unobstructed

/-! # Rotation symmetry

Away from the walls no direction is special. Of two robots that are told the same, one of which
faces a quarter turn to the left of the other, the one walks as the other does, turned by a quarter
(`runs_turned`). What a text asks for is turned with the facing (`displacements_rotateLeft`), and
where nothing is in the way the robots go where they are asked to. -/

namespace GridRobot

/-! ## A quarter turn -/

/-- A displacement, turned counter-clockwise. -/
def quarterTurn (d : Int × Int) : Int × Int :=
  (-d.2, d.1)

/-- The way from `start` to a point, in whole numbers of any size. -/
def Position.displacement (p start : Position) : Int × Int :=
  (p.x.val - start.x.val, p.y.val - start.y.val)

namespace Orientation

theorem delta_rotateLeft (facing : Orientation) :
    facing.rotateLeft.delta = quarterTurn facing.delta := by
  cases facing <;> rfl

theorem turned_rotateLeft (facing : Orientation) (c : Char) :
    facing.rotateLeft.turned c = (facing.turned c).rotateLeft := by
  unfold turned
  split
  · rfl
  · split
    · cases facing <;> rfl
    · rfl

theorem foldl_turned_rotateLeft (facing : Orientation) (cs : List Char) :
    cs.foldl turned facing.rotateLeft = (cs.foldl turned facing).rotateLeft := by
  induction cs generalizing facing with
  | nil => rfl
  | cons c cs ih => rw [List.foldl_cons, turned_rotateLeft, ih, List.foldl_cons]

end Orientation

theorem Charge.asked_rotateLeft (charge : Charge) (facing : Orientation) (c : Char) :
    charge.asked facing.rotateLeft c = (charge.asked facing c).map quarterTurn := by
  unfold asked
  rw [facing.delta_rotateLeft]
  split
  · simp [quarterTurn]
  · split
    · simp [quarterTurn]
    · rfl

/-- What a text asks for is turned with the facing. -/
theorem displacements_rotateLeft (next : Charge → Char → Charge) (facing : Orientation)
    (charge : Charge) (cs : List Char) :
    displacements next facing.rotateLeft charge cs
      = (displacements next facing charge cs).map quarterTurn := by
  induction cs generalizing facing charge with
  | nil => rfl
  | cons c cs ih =>
    rw [displacements, displacements, charge.asked_rotateLeft, facing.turned_rotateLeft, ih,
      List.map_append]

theorem sum_map_quarterTurn_x (ds : List (Int × Int)) :
    ((ds.map quarterTurn).map Axis.x.component).sum = -(ds.map Axis.y.component).sum := by
  rw [List.map_map, List.sum_neg, List.map_map]
  rfl

theorem sum_map_quarterTurn_y (ds : List (Int × Int)) :
    ((ds.map quarterTurn).map Axis.y.component).sum = (ds.map Axis.x.component).sum := by
  rw [List.map_map]
  rfl

/-! ## Robots a quarter turn apart -/

/-- What is shown by two robots a quarter turn apart, of which the first set out from `p` and the
second from `q`. -/
structure Reading.Turned (p q : Position) (r s : Reading) : Prop where
  position : s.position.displacement q = quarterTurn (r.position.displacement p)
  orientation : ∃ facing, r.orientation = some facing ∧ s.orientation = some facing.rotateLeft
  fuel : s.fuel = r.fuel

namespace Robot

/-- The robot after a quarter turn to the left. The first generation has nothing to turn. -/
def turnedLeft : Robot → Robot
  | mk1 r => mk1 r
  | mk2 r => mk2 { r with orientation := r.orientation.rotateLeft }
  | mk3 r => mk3 { r with orientation := r.orientation.rotateLeft }

/-- Nothing is in the way in any of the calls. -/
def UnobstructedAll (robot : Robot) : List String → Prop
  | [] => True
  | text :: texts => robot.Unobstructed text ∧ (robot.execute text).robot.UnobstructedAll texts

/-- Robots a quarter turn apart, of which the first set out from `p` and the second from `q`. -/
structure Turned (p q : Position) (r s : Robot) : Prop where
  walled : r.generation ≠ .mk1
  same : s = r.turnedLeft.placed s.position
  position : s.position.displacement q = quarterTurn (r.position.displacement p)

theorem displacements_turnedLeft {robot : Robot} (walled : robot.generation ≠ .mk1) (p : Position)
    (text : String) :
    (robot.turnedLeft.placed p).displacements text
      = (robot.displacements text).map quarterTurn := by
  cases robot with
  | mk1 r => exact absurd rfl walled
  | mk2 r => exact displacements_rotateLeft _ _ _ _
  | mk3 r => exact displacements_rotateLeft _ _ _ _

/-- Apart from the position, the same becomes of both. -/
theorem execute_turnedLeft {robot : Robot} (walled : robot.generation ≠ .mk1) (p : Position)
    (text : String) :
    ((robot.turnedLeft.placed p).execute text).robot
      = (robot.execute text).robot.turnedLeft.placed
          ((robot.turnedLeft.placed p).execute text).robot.position := by
  cases robot with
  | mk1 r => exact absurd rfl walled
  | mk2 r =>
    let other : Mk2 := { r with position := p, orientation := r.orientation.rotateLeft }
    change (execute (mk2 other) text).robot = (execute (mk2 r) text).robot.turnedLeft.placed
      (execute (mk2 other) text).robot.position
    rw [execute_mk2, execute_mk2, other.execute_eq, r.execute_eq,
      Orientation.foldl_turned_rotateLeft]
    rfl
  | mk3 r =>
    let other : Mk3 := { r with position := p, orientation := r.orientation.rotateLeft }
    have fuel : (other.execute text).robot.fuel = (r.execute text).robot.fuel := by
      apply UInt32.toNat_inj.mp
      rw [other.execute_fuel, r.execute_fuel]
    change (execute (mk3 other) text).robot = (execute (mk3 r) text).robot.turnedLeft.placed
      (execute (mk3 other) text).robot.position
    rw [execute_mk3, execute_mk3, other.execute_eq, r.execute_eq, fuel,
      Orientation.foldl_turned_rotateLeft]
    rfl

namespace Turned

variable {p q : Position} {r s : Robot}

theorem generation (turned : Turned p q r s) : s.generation = r.generation := by
  rw [turned.same, generation_placed]
  cases r <;> rfl

theorem recordTrace (turned : Turned p q r s) : s.recordTrace = r.recordTrace := by
  rw [turned.same, recordTrace_placed]
  cases r <;> rfl

theorem reading (turned : Turned p q r s) : Reading.Turned p q r.reading s.reading where
  position := turned.position
  orientation := by
    rw [turned.same, reading_placed]
    cases r with
    | mk1 r => exact absurd rfl turned.walled
    | mk2 r => exact ⟨_, rfl, rfl⟩
    | mk3 r => exact ⟨_, rfl, rfl⟩
  fuel := by
    rw [turned.same, reading_placed]
    cases r <;> rfl

theorem execute (turned : Turned p q r s) {text : String} (clear : r.Unobstructed text)
    (otherClear : s.Unobstructed text) :
    Turned p q (r.execute text).robot (s.execute text).robot where
  walled := by rw [execute_generation]; exact turned.walled
  same := by
    rw [turned.same]
    exact execute_turnedLeft turned.walled _ text
  position := by
    have apart := turned.position
    have asked : s.displacements text = (r.displacements text).map quarterTurn := by
      rw [turned.same]
      exact displacements_turnedLeft turned.walled _ text
    have x := coordinate_of_unobstructed clear .x
    have y := coordinate_of_unobstructed clear .y
    have x' := coordinate_of_unobstructed otherClear .x
    have y' := coordinate_of_unobstructed otherClear .y
    rw [asked, sum_map_quarterTurn_x] at x'
    rw [asked, sum_map_quarterTurn_y] at y'
    simp only [Axis.coordinate] at x y x' y'
    simp only [Position.displacement, quarterTurn, Prod.mk.injEq] at apart ⊢
    omega

end Turned

/-! ## One call -/

theorem afterFirst_length (robot : Robot) (text : String) :
    robot.afterFirst text.toList.length text = (robot.execute text).robot := by
  rw [afterFirst, List.take_length, String.ofList_toList]

theorem Unobstructed.first {robot : Robot} {text : String} (clear : robot.Unobstructed text)
    (n : Nat) : robot.Unobstructed (String.ofList (text.toList.take n)) := by
  refine of_append (b := String.ofList (text.toList.drop n)) ?_
  rwa [← String.ofList_append, List.take_append_drop, String.ofList_toList]

/-- Runs are related if robots that stop anywhere on the way are. -/
theorem runOf_related {shows : Reading → Reading → Prop} {r s : Robot} {text : String}
    (generation : r.generation = s.generation) (recordTrace : r.recordTrace = s.recordTrace)
    (stops : ∀ n, shows (r.afterFirst n text).reading (s.afterFirst n text).reading) :
    (r.runOf text).Related shows (s.runOf text) where
  generation := by
    change (r.execute text).robot.generation = (s.execute text).robot.generation
    rw [execute_generation, execute_generation, generation]
  reading := by
    have last := stops text.toList.length
    rw [afterFirst_length, afterFirst_length] at last
    exact last
  report :=
    { untraced := by
        change (r.execute text).report.untraced = (s.execute text).report.untraced
        rw [execute_untraced, execute_untraced, generation]
      steps := by
        change List.Forall₂ (Step.Related shows) (r.execute text).report.steps
          (s.execute text).report.steps
        cases traced : r.recordTrace with
        | false =>
          rw [r.execute_steps_of_untraced traced,
            s.execute_steps_of_untraced (recordTrace ▸ traced)]
          exact .nil
        | true =>
          rw [r.execute_report_steps traced, s.execute_report_steps (recordTrace ▸ traced),
            generation, List.forall₂_map_left_iff, List.forall₂_map_right_iff, List.forall₂_same]
          rintro ⟨c, index⟩ -
          exact ⟨rfl, rfl, stops (index + 1)⟩ }

theorem Turned.runOf {p q : Position} {r s : Robot} (turned : Turned p q r s) {text : String}
    (clear : r.Unobstructed text) (otherClear : s.Unobstructed text) :
    (r.runOf text).Related (Reading.Turned p q) (s.runOf text) :=
  runOf_related turned.generation.symm turned.recordTrace.symm fun n =>
    (turned.execute (clear.first n) (otherClear.first n)).reading

/-! ## Any calls -/

/-- Robots a quarter turn apart that meet nothing in the calls to come. -/
structure TurnedInTheOpen (p q : Position) (r s : Robot) (texts : List String) : Prop where
  turned : Turned p q r s
  clear : r.UnobstructedAll texts
  otherClear : s.UnobstructedAll texts

theorem runs_turnedInTheOpen {p q : Position} {r s : Robot} {texts : List String}
    (start : TurnedInTheOpen p q r s texts) :
    List.Forall₂ (Run.Related (Reading.Turned p q)) (r.runs texts) (s.runs texts) := by
  refine runs_related ?_ start
  rintro r s text texts ⟨turned, ⟨clear, later⟩, otherClear, otherLater⟩
  exact ⟨turned.runOf clear otherClear, turned.execute clear otherClear, later, otherLater⟩

end Robot

/-- **Rotation symmetry.** Of two robots with walls, the second starts a quarter turn to the left of
the first, wherever it stands, and is otherwise the same. As long as nothing is in the way of
either, what the second shows after every call and at every step is what the first shows, turned by
a quarter: its displacement, its facing, and the same fuel. -/
theorem runs_turned (robot : Robot) (walled : robot.generation ≠ .mk1) (start : Position)
    (texts : List String) (clear : robot.UnobstructedAll texts)
    (otherClear : (robot.turnedLeft.placed start).UnobstructedAll texts) :
    List.Forall₂ (Run.Related (Reading.Turned robot.position start)) (robot.runs texts)
      ((robot.turnedLeft.placed start).runs texts) := by
  refine Robot.runs_turnedInTheOpen ⟨⟨walled, ?_, ?_⟩, clear, otherClear⟩
  · rw [Robot.position_placed]
  · rw [Robot.position_placed]
    simp [Position.displacement, quarterTurn]

/-- The first robot faces right and the second forward. Both turn either way and back up, and the
last digit is granted less than it asks for. -/
theorem runs_turned_boosted :
    let robot : Robot := .mk3 ⟨⟨{ val := 3 }, { val := 2 }⟩, .right, 9, 5, true⟩
    let start : Position := ⟨{ val := 7 }, { val := 4 }⟩
    let other := robot.turnedLeft.placed start
    let texts := ["3F?R2B", "L9FLB"]
    robot.generation ≠ .mk1
      ∧ robot.UnobstructedAll texts
      ∧ other.UnobstructedAll texts
      ∧ (afterAll Robot.execute robot texts).position.displacement robot.position = (7, 0)
      ∧ (afterAll Robot.execute other texts).position.displacement start = (0, 7)
      ∧ List.Forall₂ (Run.Related (Reading.Turned robot.position start)) (robot.runs texts)
          (other.runs texts) := by
  intro robot start other texts
  have walled : robot.generation ≠ .mk1 := by decide
  have clear : robot.UnobstructedAll texts := ⟨by decide, by decide, trivial⟩
  have otherClear : other.UnobstructedAll texts := ⟨by decide, by decide, trivial⟩
  exact ⟨walled, clear, otherClear, by decide, by decide,
    runs_turned robot walled start texts clear otherClear⟩

end GridRobot
