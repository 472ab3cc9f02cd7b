import GridRobot.Proofs.Boosting
import GridRobot.Proofs.Quadrant
import Mathlib

/-! # Reflection at the walls

Clamping after each move makes the end of a walk depend on its whole history. On each axis, though,
what clamping adds up to has a closed form: the walk ends where it would end without the wall,
shifted up by what its deepest point overshot the wall (`execute_reflection`).

`Robot.displacements` lists what a text asks for, without regard to where the robot stands. The
proof first shows that the position after a text is the fold of `Position.stride` over that list,
and then treats one axis, where only sums and minima are left. -/

namespace GridRobot

/-! ## Walks on one axis -/

/-- The deepest point of a walk that starts at zero and meets no wall; the start counts. -/
def deepest (ds : List Int) : Int :=
  (Finset.range (ds.length + 1)).inf' Finset.nonempty_range_add_one fun k => (ds.take k).sum

@[simp] theorem deepest_nil : deepest [] = 0 := rfl

theorem deepest_cons (d : Int) (ds : List Int) :
    deepest (d :: ds) = min 0 (d + deepest ds) := by
  apply le_antisymm
  -- The deepest point is no higher than the start, nor than the deepest point after `d`.
  · apply le_min
    · have start : 0 ∈ Finset.range ((d :: ds).length + 1) :=
        Finset.mem_range.mpr (Nat.succ_pos _)
      exact Finset.inf'_le (fun k => ((d :: ds).take k).sum) start
    · obtain ⟨k, member, least⟩ := Finset.exists_mem_eq_inf'
        (Finset.nonempty_range_add_one (n := ds.length)) fun k => (ds.take k).sum
      have bound : k + 1 ∈ Finset.range ((d :: ds).length + 1) := by
        rw [Finset.mem_range, List.length_cons] at *
        omega
      calc deepest (d :: ds) ≤ ((d :: ds).take (k + 1)).sum := Finset.inf'_le _ bound
        _ = d + (ds.take k).sum := by rw [List.take_succ_cons, List.sum_cons]
        _ = d + deepest ds := by rw [deepest, least]
  -- Any point is the start or comes after `d`.
  · apply Finset.le_inf'
    intro k member
    cases k with
    | zero => exact min_le_left _ _
    | succ k =>
      have bound : k ∈ Finset.range (ds.length + 1) := by
        rw [Finset.mem_range, List.length_cons] at *
        omega
      have above : deepest ds ≤ (ds.take k).sum :=
        Finset.inf'_le (fun k => (ds.take k).sum) bound
      rw [List.take_succ_cons, List.sum_cons]
      omega

theorem deepest_nonpos (ds : List Int) : deepest ds ≤ 0 := by
  cases ds with
  | nil => exact le_rfl
  | cons d ds => rw [deepest_cons]; exact min_le_left _ _

/-- One coordinate after a displacement, with both walls in the way. -/
def bounded (c d : Int) : Int :=
  max 0 (min (c + d) greatestCoordinate)

/-- The closed form of a walk that keeps away from the upper wall. -/
theorem foldl_bounded (c : Int) (ds : List Int) (nonneg : 0 ≤ c)
    (room : c + (ds.map fun d => |d|).sum ≤ greatestCoordinate) :
    ds.foldl bounded c = ds.sum + max c (-deepest ds) := by
  -- The deepest point is measured from the start, and each step of the walk is a new start.
  induction ds generalizing c with
  | nil =>
    rw [List.foldl_nil, List.sum_nil, deepest_nil]
    omega
  | cons d ds ih =>
    have length : 0 ≤ (ds.map fun d => |d|).sum := by
      apply List.sum_nonneg
      intro a member
      obtain ⟨d, -, rfl⟩ := List.mem_map.mp member
      exact abs_nonneg d
    rw [List.map_cons, List.sum_cons] at room
    have up := le_abs_self d
    have apart := abs_nonneg d
    have step : bounded c d = max 0 (c + d) := by
      unfold bounded
      omega
    -- A step that is clamped uses up no more room than one that is not.
    have rest := ih (max 0 (c + d)) (le_max_left _ _) (by omega)
    have below := deepest_nonpos ds
    rw [List.foldl_cons, step, rest, List.sum_cons, deepest_cons]
    omega

/-! ## What a text asks for -/

/-- An axis of the grid. -/
inductive Axis where
  | x
  | y
  deriving DecidableEq, Repr

namespace Axis

def coordinate : Axis → Position → Int
  | x, p => p.x.val
  | y, p => p.y.val

/-- The part of a displacement along an axis. -/
def component : Axis → Int × Int → Int
  | x, d => d.1
  | y, d => d.2

theorem coordinate_stride (axis : Axis) (p : Position) (d : Int × Int) :
    axis.coordinate (p.stride d) = bounded (axis.coordinate p) (axis.component d) := by
  cases axis with
  | x => exact Position.stride_x p d
  | y => exact Position.stride_y p d

theorem coordinate_foldl_stride (axis : Axis) (p : Position) (ds : List (Int × Int)) :
    axis.coordinate (ds.foldl Position.stride p)
      = (ds.map axis.component).foldl bounded (axis.coordinate p) := by
  induction ds generalizing p with
  | nil => rfl
  | cons d ds ih => rw [List.foldl_cons, ih, coordinate_stride, List.map_cons, List.foldl_cons]

end Axis

/-- The facing after a character. -/
def Orientation.turned (facing : Orientation) (c : Char) : Orientation :=
  if c = 'L' then facing.rotateLeft else if c = 'R' then facing.rotateRight else facing

/-- The displacement that a character asks for, if it is a move. -/
def Charge.asked (charge : Charge) (facing : Orientation) (c : Char) : List (Int × Int) :=
  if c = 'F' then [(facing.delta.1 * charge.distance, facing.delta.2 * charge.distance)]
  else if c = 'B' then [(facing.delta.1 * -1, facing.delta.2 * -1)]
  else []

/-- The displacements that characters ask for in turn. `next` says what they do to the charge. -/
def displacements (next : Charge → Char → Charge) :
    Orientation → Charge → List Char → List (Int × Int)
  | _, _, [] => []
  | facing, charge, c :: cs =>
    charge.asked facing c ++ displacements next (facing.turned c) (next charge c) cs

/-- What a text asks of a robot of the second generation: every move goes one unit. -/
def Mk2.displacements (r : Mk2) (text : String) : List (Int × Int) :=
  GridRobot.displacements (fun charge _ => charge) r.orientation { fuel := 0 } text.toList

/-- What a text asks of a robot of the third generation. -/
def Mk3.displacements (r : Mk3) (text : String) : List (Int × Int) :=
  GridRobot.displacements (Charge.next r.maxBoost.toNat) r.orientation { fuel := r.fuel.toNat }
    text.toList

/-- What a text asks of a robot. The first generation has no facing, and its axes are fixed. -/
def Robot.displacements : Robot → String → List (Int × Int)
  | mk1 _, text => text.toList.filterMap fun c => Mk1.move? (Instruction.decode c)
  | mk2 r, text => r.displacements text
  | mk3 r, text => r.displacements text

theorem Orientation.turned_other (facing : Orientation) {c : Char} (notLeft : c ≠ 'L')
    (notRight : c ≠ 'R') : facing.turned c = facing := by
  simp [turned, notLeft, notRight]

theorem Orientation.turned_digit (facing : Orientation) {c : Char} (isDigit : c.isDigit = true) :
    facing.turned c = facing :=
  facing.turned_other (Instruction.ne_of_isDigit isDigit rfl)
    (Instruction.ne_of_isDigit isDigit rfl)

theorem Charge.asked_other (charge : Charge) (facing : Orientation) {c : Char}
    (notForward : c ≠ 'F') (notBackward : c ≠ 'B') : charge.asked facing c = [] := by
  simp [asked, notForward, notBackward]

theorem Charge.asked_digit (charge : Charge) (facing : Orientation) {c : Char}
    (isDigit : c.isDigit = true) : charge.asked facing c = [] :=
  charge.asked_other facing (Instruction.ne_of_isDigit isDigit rfl)
    (Instruction.ne_of_isDigit isDigit rfl)

/-! ## Robots and the list of displacements -/

namespace Mk2

theorem advance_orientation (r : Mk2) (c : Char) :
    (interpreter.advance r c).orientation = r.orientation.turned c := by
  obtain ⟨instruction, decoded, reads⟩ := Instruction.exists_reads c
  cases reads with
  | forward => rfl
  | backward => rfl
  | left => rfl
  | right => rfl
  | digit isDigit =>
    rw [Interpreter.advance_of_decode decoded, Orientation.turned_digit _ isDigit]
    rfl
  | other _ _ _ notLeft notRight =>
    rw [Interpreter.advance_of_decode decoded, Orientation.turned_other _ notLeft notRight]
    rfl

theorem advance_position (r : Mk2) (fuel : Nat) (c : Char) :
    (interpreter.advance r c).position
      = (Charge.asked { fuel } r.orientation c).foldl Position.stride r.position := by
  obtain ⟨instruction, decoded, reads⟩ := Instruction.exists_reads c
  cases reads with
  | forward => rfl
  | backward => rfl
  | left => rfl
  | right => rfl
  | digit isDigit =>
    rw [Interpreter.advance_of_decode decoded, Charge.asked_digit _ _ isDigit]
    rfl
  | other _ notForward notBackward _ _ =>
    rw [Interpreter.advance_of_decode decoded, Charge.asked_other _ _ notForward notBackward]
    rfl

theorem run_position (r : Mk2) (fuel : Nat) (cs : List Char) :
    (interpreter.run r cs).position
      = (GridRobot.displacements (fun charge _ => charge) r.orientation { fuel } cs).foldl
          Position.stride r.position := by
  induction cs generalizing r with
  | nil => rfl
  | cons c cs ih =>
    rw [Interpreter.run_cons, ih, advance_orientation, advance_position r fuel,
      GridRobot.displacements, List.foldl_append]

end Mk2

namespace BoostedMk3

theorem advance_orientation (s : BoostedMk3) (c : Char) :
    (interpreter.advance s c).robot.orientation = s.robot.orientation.turned c := by
  obtain ⟨instruction, decoded, reads⟩ := Instruction.exists_reads c
  cases reads with
  | forward => rfl
  | backward => rfl
  | left => rfl
  | right => rfl
  | digit isDigit =>
    rw [advance_digit s decoded, Orientation.turned_digit _ isDigit]
    rfl
  | other _ _ _ notLeft notRight =>
    rw [advance_other s decoded, Orientation.turned_other _ notLeft notRight]

theorem advance_position {s : BoostedMk3} {charge : Charge} (carries : s.Carries charge)
    (c : Char) :
    (interpreter.advance s c).robot.position
      = (charge.asked s.robot.orientation c).foldl Position.stride s.robot.position := by
  obtain ⟨instruction, decoded, reads⟩ := Instruction.exists_reads c
  cases reads with
  | forward =>
    change s.robot.position.drive s.robot.orientation s.boost.distance.toNat = _
    rw [carries.distance]
    rfl
  | backward => rfl
  | left => rfl
  | right => rfl
  | digit isDigit =>
    rw [advance_digit s decoded, Charge.asked_digit _ _ isDigit]
    rfl
  | other _ notForward notBackward _ _ =>
    rw [advance_other s decoded, Charge.asked_other _ _ notForward notBackward]
    rfl

theorem run_position {s : BoostedMk3} {charge : Charge} (carries : s.Carries charge)
    (cs : List Char) :
    (interpreter.run s cs).robot.position
      = (GridRobot.displacements (Charge.next s.robot.maxBoost.toNat) s.robot.orientation charge
          cs).foldl Position.stride s.robot.position := by
  induction cs generalizing s charge with
  | nil => rfl
  | cons c cs ih =>
    rw [Interpreter.run_cons, ih (carries_advance carries c), advance_orientation,
      advance_maxBoost, advance_position carries, GridRobot.displacements, List.foldl_append]

end BoostedMk3

/-- A robot that knows the walls is led through the displacements that the text asks for. -/
theorem Robot.execute_position (robot : Robot) (walled : robot.generation ≠ .mk1)
    (text : String) :
    (robot.execute text).robot.position
      = (robot.displacements text).foldl Position.stride robot.position := by
  cases robot with
  | mk1 r => exact absurd rfl walled
  | mk2 r =>
    change (r.execute text).robot.position = _
    rw [Mk2.execute_robot]
    -- Any fuel will do, because no digit reaches this charge.
    exact r.run_position 0 text.toList
  | mk3 r =>
    change (r.execute text).robot.position = _
    rw [Mk3.execute_robot]
    exact BoostedMk3.run_position (BoostedMk3.carries_start r) text.toList

/-- **Reflection formula.** What a wall takes from a walk is what the deepest point overshot it by,
taken once. -/
theorem execute_reflection (robot : Robot) (walled : robot.generation ≠ .mk1) (text : String)
    (axis : Axis) (nonneg : 0 ≤ axis.coordinate robot.position)
    (room : axis.coordinate robot.position
        + (((robot.displacements text).map axis.component).map fun d => |d|).sum
      ≤ greatestCoordinate) :
    axis.coordinate (robot.execute text).robot.position
      = ((robot.displacements text).map axis.component).sum
        + max (axis.coordinate robot.position)
            (-deepest ((robot.displacements text).map axis.component)) := by
  rw [robot.execute_position walled, Axis.coordinate_foldl_stride]
  exact foldl_bounded _ _ nonneg room

/-- A robot three units from the wall behind it. -/
def nearWall : Robot :=
  .mk3 ⟨⟨{ val := 2 }, { val := 3 }⟩, .forward, 9, 5, false⟩

/-- Two moves overshoot the wall; only the deeper of the two counts. -/
theorem execute_reflection_nearWall :
    nearWall.generation ≠ .mk1
      ∧ (nearWall.displacements "RR4FxB2FLLFF").map Axis.y.component = [-4, 1, -2, 1, 1]
      ∧ Axis.y.coordinate (nearWall.execute "RR4FxB2FLLFF").robot.position = -3 + max 3 5 :=
  ⟨by decide, by decide,
    execute_reflection nearWall (by decide) "RR4FxB2FLLFF" .y (by decide) (by decide)⟩

end GridRobot
