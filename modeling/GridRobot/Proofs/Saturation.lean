import GridRobot.Proofs.Unobstructed

/-! # The first generation at the ends of the range

Saturating moves neither commute nor cancel, so the order of a text matters near the ends of the
range. Any number of them in a row, though, comes to one shift between two limits
(`exists_limits`), and the limits are where robots end up that start at the ends of the range
(`Mk1.execute_saturating`). The axes do not interfere: each has two characters of its own. -/

namespace GridRobot

/-! ## Shifts in a row -/

namespace Coordinate

def least : Coordinate :=
  saturate leastCoordinate

def greatest : Coordinate :=
  saturate greatestCoordinate

theorem val_least : least.val = leastCoordinate := by
  decide

theorem val_greatest : greatest.val = greatestCoordinate := by
  decide

theorem val_shift (a : Coordinate) (d : Int) : (a.shift d).val = limited leastCoordinate a.val d :=
  rfl

theorem shift_zero (a : Coordinate) : a.shift 0 = a := by
  have above := a.least_le
  have below := a.le_greatest
  ext
  rw [val_shift, limited]
  omega

theorem val_foldl_shift (a : Coordinate) (ds : List Int) :
    (ds.foldl shift a).val = ds.foldl (limited leastCoordinate) a.val := by
  induction ds generalizing a with
  | nil => rfl
  | cons d ds ih => rw [List.foldl_cons, ih, val_shift, List.foldl_cons]

/-- Shifts in a row come to a single one, between limits that do not depend on the start. -/
theorem exists_limits (ds : List Int) :
    ∃ low high : Int, ∀ a : Coordinate,
      (ds.foldl shift a).val = max low (min high (a.val + ds.sum)) := by
  induction ds with
  | nil =>
    refine ⟨leastCoordinate, greatestCoordinate, ?_⟩
    intro a
    have above := a.least_le
    have below := a.le_greatest
    rw [List.foldl_nil, List.sum_nil]
    omega
  | cons d ds ih =>
    obtain ⟨low, high, limits⟩ := ih
    -- What the first shift cuts off is carried along by the others, and cut off from their limits.
    refine ⟨max low (min high (leastCoordinate + ds.sum)), min high (greatestCoordinate + ds.sum),
      ?_⟩
    intro a
    rw [List.foldl_cons, limits, val_shift, limited, List.sum_cons, ← max_add_add_right,
      ← min_add_add_right, min_max_distrib_left, ← max_assoc, min_comm (a.val + d + ds.sum),
      ← min_assoc, add_assoc]

/-- The limits are found by starting at the ends of the range. -/
theorem val_foldl_shift_eq (a : Coordinate) (ds : List Int) :
    (ds.foldl shift a).val
      = max (ds.foldl shift least).val (min (ds.foldl shift greatest).val (a.val + ds.sum)) := by
  obtain ⟨low, high, limits⟩ := exists_limits ds
  have above := a.least_le
  have below := a.le_greatest
  rw [limits a, limits least, limits greatest, val_least, val_greatest]
  omega

end Coordinate

/-! ## What a text asks for on one axis -/

namespace Axis

/-- The character that leads up the axis. -/
def ahead : Axis → Char
  | x => 'F'
  | y => 'L'

/-- The character that leads down the axis. -/
def behind : Axis → Char
  | x => 'B'
  | y => 'R'

def concerns (axis : Axis) (c : Char) : Bool :=
  c == axis.ahead || c == axis.behind

/-- How far characters lead up the axis, in whole numbers of any size. -/
def net (axis : Axis) (cs : List Char) : Int :=
  cs.count axis.ahead - cs.count axis.behind

/-- No beginning of a text leads out of the range, in whole numbers of any size. -/
def InRangeThroughout (axis : Axis) (c : Int) (cs : List Char) : Prop :=
  ∀ first ∈ cs.inits, leastCoordinate ≤ c + axis.net first
    ∧ c + axis.net first ≤ greatestCoordinate

instance (axis : Axis) (c : Int) (cs : List Char) : Decidable (axis.InRangeThroughout c cs) :=
  inferInstanceAs (Decidable (∀ first ∈ cs.inits, _))

/-- The step of one character. -/
def unit (axis : Axis) (c : Char) : Int :=
  axis.net [c]

def entry : Axis → Position → Coordinate
  | x, p => p.x
  | y, p => p.y

/-- The point at a coordinate of the axis, with zero across. -/
def point : Axis → Coordinate → Position
  | x, c => ⟨c, .zero⟩
  | y, c => ⟨.zero, c⟩

variable (axis : Axis)

theorem entry_point (c : Coordinate) : axis.entry (axis.point c) = c := by
  cases axis <;> rfl

theorem net_append (cs ds : List Char) : axis.net (cs ++ ds) = axis.net cs + axis.net ds := by
  simp only [net, List.count_append]
  omega

theorem net_eq_sum (cs : List Char) : axis.net cs = (cs.map axis.unit).sum := by
  induction cs with
  | nil => rfl
  | cons c cs ih => rw [List.map_cons, List.sum_cons, ← ih, unit, ← net_append]; rfl

theorem net_perm {cs ds : List Char} (same : cs.Perm ds) : axis.net cs = axis.net ds := by
  rw [net, net, same.count_eq, same.count_eq]

theorem unit_of_concerns_eq_false {c : Char} (other : axis.concerns c = false) :
    axis.unit c = 0 := by
  simp only [concerns, Bool.or_eq_false_iff, beq_eq_false_iff_ne] at other
  simp [unit, net, other.1, other.2]

/-- What leads nowhere along the axis may be left out. -/
theorem foldl_shift_filter (c : Coordinate) (cs : List Char) :
    ((cs.filter axis.concerns).map axis.unit).foldl Coordinate.shift c
      = (cs.map axis.unit).foldl Coordinate.shift c := by
  induction cs generalizing c with
  | nil => rfl
  | cons d cs ih =>
    cases concerned : axis.concerns d with
    | true =>
      rw [List.filter_cons_of_pos concerned, List.map_cons, List.foldl_cons, ih]
      rfl
    | false =>
      rw [List.filter_cons_of_neg (by simp [concerned]), ih, List.map_cons, List.foldl_cons,
        axis.unit_of_concerns_eq_false concerned, Coordinate.shift_zero]

theorem staysWithin_of_inRangeThroughout {c : Int} {cs : List Char}
    (inRange : axis.InRangeThroughout c cs) :
    StaysWithin leastCoordinate c (cs.map axis.unit) := by
  induction cs generalizing c with
  | nil => trivial
  | cons d cs ih =>
    refine ⟨inRange [d] (List.mem_inits _ _ |>.mpr (List.prefix_append [d] cs)), ih ?_⟩
    intro first member
    have longer : d :: first ∈ (d :: cs).inits := by
      rw [List.mem_inits] at member ⊢
      exact (List.prefix_cons_inj d).mpr member
    have within := inRange (d :: first) longer
    have whole : axis.net (d :: first) = axis.unit d + axis.net first := axis.net_append [d] first
    rw [whole] at within
    omega

end Axis

/-! ## Robots of the first generation -/

namespace Mk1

theorem entry_advance (r : Mk1) (axis : Axis) (c : Char) :
    axis.entry (interpreter.advance r c).position
      = (axis.entry r.position).shift (axis.unit c) := by
  obtain ⟨instruction, decoded, reads⟩ := Instruction.exists_reads c
  have stays (other : axis.concerns c = false) :
      (axis.entry r.position).shift (axis.unit c) = axis.entry r.position := by
    rw [axis.unit_of_concerns_eq_false other, Coordinate.shift_zero]
  cases reads with
  | forward | backward | left | right => cases axis <;> rfl
  | digit isDigit =>
    rw [Interpreter.advance_of_decode decoded, stays]
    · rfl
    · cases axis <;>
        simp [Axis.concerns, Axis.ahead, Axis.behind, Instruction.ne_of_isDigit isDigit]
  | other noDigit notForward notBackward notLeft notRight =>
    rw [Interpreter.advance_of_decode decoded, stays]
    · rfl
    · cases axis <;>
        simp [Axis.concerns, Axis.ahead, Axis.behind, notForward, notBackward, notLeft, notRight]

theorem entry_execute (r : Mk1) (axis : Axis) (text : String) :
    axis.entry (r.execute text).robot.position
      = (text.toList.map axis.unit).foldl Coordinate.shift (axis.entry r.position) := by
  rw [execute_robot]
  generalize text.toList = cs
  induction cs generalizing r with
  | nil => rfl
  | cons c cs ih => rw [Interpreter.run_cons, ih, entry_advance, List.map_cons, List.foldl_cons]

/-- Where a robot ends up on an axis that starts at `c` there, and at zero across. -/
def finish (text : String) (axis : Axis) (c : Coordinate) : Coordinate :=
  axis.entry ((Mk1.mk (axis.point c) false).execute text).robot.position

theorem finish_eq (text : String) (axis : Axis) (c : Coordinate) :
    finish text axis c = (text.toList.map axis.unit).foldl Coordinate.shift c := by
  rw [finish, entry_execute, Axis.entry_point]

theorem entry_execute_eq_finish (r : Mk1) (axis : Axis) (text : String) :
    axis.entry (r.execute text).robot.position = finish text axis (axis.entry r.position) := by
  rw [finish_eq, entry_execute]

theorem finish_congr {text other : String} {axis : Axis}
    (same : other.toList.filter axis.concerns = text.toList.filter axis.concerns) :
    finish other axis = finish text axis := by
  funext c
  rw [finish_eq, finish_eq, ← axis.foldl_shift_filter, same, axis.foldl_shift_filter]

theorem val_finish_eq_limits (text : String) (axis : Axis) (c : Coordinate) :
    (finish text axis c).val
      = max (finish text axis .least).val
          (min (finish text axis .greatest).val (c.val + axis.net text.toList)) := by
  simp only [finish_eq, axis.net_eq_sum]
  exact Coordinate.val_foldl_shift_eq c _

theorem val_finish_of_inRange {text : String} {axis : Axis} {c : Coordinate}
    (inRange : axis.InRangeThroughout c.val text.toList) :
    (finish text axis c).val = c.val + axis.net text.toList := by
  rw [finish_eq, Coordinate.val_foldl_shift, axis.net_eq_sum]
  exact (axis.staysWithin_of_inRangeThroughout inRange).foldl_limited

/-- **Saturation in closed form.** Where a robot ends up on an axis is told by where it started
there and by the two characters of the axis. They shift it by as much as they lead up the axis
together, but keep it between where a robot from the least coordinate ends up and one from the
greatest. A walk that never leaves the range is not cut short, and so its characters may come in any
other order that does not leave it either. -/
theorem execute_saturating (text : String) (axis : Axis) :
    (∀ r : Mk1, axis.entry (r.execute text).robot.position
        = finish text axis (axis.entry r.position))
      ∧ (∀ other : String,
        other.toList.filter axis.concerns = text.toList.filter axis.concerns →
          finish other axis = finish text axis)
      ∧ (∀ c : Coordinate, (finish text axis c).val
        = max (finish text axis .least).val
            (min (finish text axis .greatest).val (c.val + axis.net text.toList)))
      ∧ ∀ c : Coordinate, axis.InRangeThroughout c.val text.toList →
          (finish text axis c).val = c.val + axis.net text.toList
            ∧ ∀ other : String, other.toList.Perm text.toList →
                axis.InRangeThroughout c.val other.toList →
                  finish other axis c = finish text axis c := by
  refine ⟨fun r => r.entry_execute_eq_finish axis text, fun other => finish_congr,
    val_finish_eq_limits text axis, ?_⟩
  intro c inRange
  refine ⟨val_finish_of_inRange inRange, ?_⟩
  intro other same otherInRange
  ext
  rw [val_finish_of_inRange inRange, val_finish_of_inRange otherInRange, axis.net_perm same]

/-- One unit from the upper end the walk is cut short twice, and three units from it never. -/
theorem execute_saturating_nearEnd :
    let near : Coordinate := { val := 9223372036854775806 }
    let free : Coordinate := { val := 9223372036854775804 }
    "RFFéB7FLB".toList.filter Axis.x.concerns = "FFBéFB".toList.filter Axis.x.concerns
      ∧ finish "RFFéB7FLB" .x = finish "FFBéFB" .x
      ∧ (finish "FFBéFB" .x .greatest).val = 9223372036854775806
      ∧ (finish "FFBéFB" .x near).val
        = max (finish "FFBéFB" .x .least).val (min 9223372036854775806 (9223372036854775806 + 1))
      ∧ "BéFBFF".toList.Perm "FFBéFB".toList
      ∧ Axis.x.InRangeThroughout free.val "FFBéFB".toList
      ∧ Axis.x.InRangeThroughout free.val "BéFBFF".toList
      ∧ finish "BéFBFF" .x free = finish "FFBéFB" .x free
      ∧ (finish "FFBéFB" .x free).val = 9223372036854775804 + 1 := by
  intro near free
  have characters : "RFFéB7FLB".toList.filter Axis.x.concerns
      = "FFBéFB".toList.filter Axis.x.concerns := by decide
  have high : (finish "FFBéFB" .x .greatest).val = 9223372036854775806 := by decide +kernel
  have order : "BéFBFF".toList.Perm "FFBéFB".toList := by decide
  have inRange : Axis.x.InRangeThroughout free.val "FFBéFB".toList := by decide
  have otherInRange : Axis.x.InRangeThroughout free.val "BéFBFF".toList := by decide
  obtain ⟨-, congruence, limits, exactly⟩ := execute_saturating "FFBéFB" .x
  obtain ⟨shifted, reordered⟩ := exactly free inRange
  have limited := limits near
  rw [high] at limited
  exact ⟨characters, congruence _ characters, high, limited, order, inRange, otherInRange,
    reordered _ order otherInRange, shifted⟩

end Mk1

end GridRobot
