import GridRobot.Proofs.Locality
import GridRobot.Proofs.Unobstructed

/-! # What a walk costs

A robot of the third generation goes no further than it pays for: each unit of the way is paid for
by a unit of fuel, or by a move that is not boosted (`Mk3.afterAll_budget`). Fuel is burned when the
digit is read and may be used later or never. What has been burned and can still be used is the
boost that is pending. With it as a part of the credit, every character pays for what it travels
(`BoostedMk3.distance_advance_le`). -/

namespace GridRobot

/-! ## Ways on the grid -/

/-- How far two points are apart along the axes. -/
def Position.distance (p q : Position) : Int :=
  |q.x.val - p.x.val| + |q.y.val - p.y.val|

namespace Position

theorem distance_self (p : Position) : p.distance p = 0 := by
  simp [distance]

theorem distance_triangle (p q r : Position) : p.distance r ≤ p.distance q + q.distance r := by
  have x := abs_sub_le r.x.val q.x.val p.x.val
  have y := abs_sub_le r.y.val q.y.val p.y.val
  unfold distance
  omega

/-- A wall never makes a move longer. -/
theorem distance_drive_le {p : Position} (inside : p.InQuadrant) (facing : Orientation)
    (distance : Int) : p.distance (p.drive facing distance) ≤ |distance| := by
  have across := coordinate_drive_across inside facing distance
  have along := abs_coordinate_drive_sub_le inside facing distance
  unfold Position.distance
  cases facing with
  | forward | backward =>
    change (p.drive _ distance).x.val = p.x.val at across
    change |(p.drive _ distance).y.val - p.y.val| ≤ _ at along
    rw [across, sub_self, abs_zero, zero_add]
    exact along
  | left | right =>
    change (p.drive _ distance).y.val = p.y.val at across
    change |(p.drive _ distance).x.val - p.x.val| ≤ _ at along
    rw [across, sub_self, abs_zero, add_zero]
    exact along

end Position

/-! ## Moves without fuel -/

/-- The forward moves of a text that no digit boosts: between the move and the one before it, or the
start, stands no digit. -/
def unboosted (cs : List Char) : Nat :=
  cs.zipIdx.countP fun (c, index) => c == 'F' && !leavesBoost (cs.take index)

/-- The moves of a text that no fuel is burned for. -/
def freeMoves (cs : List Char) : Nat :=
  cs.count 'B' + unboosted cs

theorem unboosted_concat (cs : List Char) (c : Char) :
    unboosted (cs ++ [c]) = unboosted cs + if c = 'F' ∧ leavesBoost cs = false then 1 else 0 := by
  have earlier : cs.zipIdx.countP (fun (d, index) =>
        d == 'F' && !leavesBoost ((cs ++ [c]).take index)) = unboosted cs := by
    refine List.countP_congr ?_
    rintro ⟨d, index⟩ member
    have before : index < cs.length := by simpa using List.snd_lt_of_mem_zipIdx member
    have same : (cs ++ [c]).take index = cs.take index := List.take_append_of_le_length before.le
    simp only [same]
  rw [unboosted, List.zipIdx_append, List.countP_append, earlier]
  simp [List.countP_singleton]

-- The second, the third and the last forward move; the first is boosted, and the other digit is
-- used up by the backward move.
example : unboosted "3FF5BF?F".toList = 3 := by
  decide

theorem freeMoves_concat (cs : List Char) (c : Char) :
    freeMoves (cs ++ [c])
      = freeMoves cs + if c = 'B' ∨ c = 'F' ∧ leavesBoost cs = false then 1 else 0 := by
  rw [freeMoves, freeMoves, unboosted_concat, List.count_append, List.count_singleton]
  by_cases backward : c = 'B'
  · have noForward : ¬(c = 'F' ∧ leavesBoost cs = false) := by
      rintro ⟨rfl, -⟩
      cases backward
    rw [if_pos (beq_iff_eq.mpr backward), if_neg noForward, if_pos (.inl backward)]
    omega
  · rw [if_neg (by simpa using backward)]
    simp only [backward, false_or]
    omega

/-! ## One character -/

namespace BoostedMk3

/-- What a robot can still pay for a move with: the fuel, and what was burned for a boost that is
pending. -/
def credit (s : BoostedMk3) (pending : Bool) : Int :=
  s.robot.fuel.toNat + if pending then (s.boost.distance.toNat : Int) else 0

theorem credit_false (s : BoostedMk3) : s.credit false = s.robot.fuel.toNat :=
  Int.add_zero _

theorem credit_true (s : BoostedMk3) :
    s.credit true = s.robot.fuel.toNat + s.boost.distance.toNat := rfl

/-- After a digit there is as much credit as before, if no other boost was pending. -/
theorem credit_engage (s : BoostedMk3) (requested : UInt8) :
    (s.engage requested).credit true = s.robot.fuel.toNat := by
  have affordable := UInt32.le_iff_toNat_le.mp (s.robot.burned_le_fuel requested)
  have granted : (s.engage requested).boost.distance = s.robot.burned requested := rfl
  rw [credit_true, engage_fuel, granted]
  omega

theorem credit_false_le (s : BoostedMk3) (pending : Bool) : s.credit false ≤ s.credit pending := by
  cases pending with
  | false => exact le_rfl
  | true =>
    rw [credit_false, credit_true]
    omega

/-- **One character is paid for.** What it travels comes out of the credit, apart from a unit for a
move that burns no fuel. -/
theorem distance_advance_le {s : BoostedMk3} (inside : s.robot.position.InQuadrant)
    {pending : Bool} (single : pending = false → s.boost.distance = 1) (c : Char) :
    s.robot.position.distance (interpreter.advance s c).robot.position
        + (interpreter.advance s c).credit (if concernsBoost c then c.isDigit else pending)
      ≤ s.credit pending + if c = 'B' ∨ c = 'F' ∧ pending = false then 1 else 0 := by
  have spent := s.credit_false_le pending
  rw [credit_false] at spent
  obtain ⟨instruction, decoded, reads⟩ := Instruction.exists_reads c
  cases reads with
  | forward =>
    have moved := Position.distance_drive_le inside s.robot.orientation s.boost.distance.toNat
    rw [Nat.abs_cast] at moved
    change _ + credit ⟨s.robot.drive s.boost.distance.toNat, s.boost.settled⟩ false ≤ _
    rw [credit_false]
    change s.robot.position.distance (s.robot.position.drive _ _) + (s.robot.fuel.toNat : Int) ≤ _
    -- The pending boost pays for the move, or else the move goes one unit.
    cases pending with
    | true =>
      change _ ≤ s.credit true + 0
      rw [credit_true]
      omega
    | false =>
      have unit : (s.boost.distance.toNat : Int) = 1 := by
        rw [single rfl]
        rfl
      change _ ≤ s.credit false + 1
      rw [credit_false]
      omega
  | backward =>
    have moved := Position.distance_drive_le inside s.robot.orientation (-1)
    change _ + credit ⟨s.robot.drive (-1), s.boost.settled⟩ false ≤ _ + 1
    rw [credit_false]
    change s.robot.position.distance (s.robot.position.drive _ _) + (s.robot.fuel.toNat : Int) ≤ _
    rw [abs_neg, abs_one] at moved
    omega
  | left | right =>
    change s.robot.position.distance s.robot.position + s.credit pending ≤ s.credit pending + 0
    rw [Position.distance_self, zero_add, add_zero]
  -- A digit that overrides a pending boost gives up what was burned for it.
  | digit isDigit =>
    rw [advance_digit s decoded, concernsBoost_of_isDigit isDigit, if_pos rfl, isDigit,
      credit_engage]
    change s.robot.position.distance s.robot.position + _ ≤ _
    rw [Position.distance_self, zero_add]
    split
    · omega
    · omega
  | other noDigit notForward notBackward =>
    rw [advance_other s decoded, concernsBoost_other noDigit notForward notBackward,
      Position.distance_self]
    simp [notForward, notBackward]

end BoostedMk3

namespace Mk3

/-! ## One call -/

/-- How long the way is on which a robot follows a text: the lengths of its moves together. -/
def mileage (r : Mk3) (text : String) : Int :=
  ((List.range text.length).map fun n =>
    ((Robot.mk3 r).afterFirst n text).position.distance
      ((Robot.mk3 r).afterFirst (n + 1) text).position).sum

open BoostedMk3 (interpreter)

/-- The way through the states after each character. -/
def way (r : Mk3) (cs : List Char) : Int :=
  ((List.range cs.length).map fun n =>
    (interpreter.run { robot := r } (cs.take n)).robot.position.distance
      (interpreter.run { robot := r } (cs.take (n + 1))).robot.position).sum

theorem mileage_eq_way (r : Mk3) (text : String) : r.mileage text = r.way text.toList := by
  simp only [mileage, way, Robot.afterFirst, Robot.execute_mk3, Robot.position_mk3, execute_robot,
    String.toList_ofList, String.length_toList]

theorem way_concat (r : Mk3) (cs : List Char) (c : Char) :
    r.way (cs ++ [c])
      = r.way cs + (interpreter.run { robot := r } cs).robot.position.distance
          (interpreter.advance (interpreter.run { robot := r } cs) c).robot.position := by
  have earlier : ((List.range cs.length).map fun n =>
      (interpreter.run { robot := r } ((cs ++ [c]).take n)).robot.position.distance
        (interpreter.run { robot := r } ((cs ++ [c]).take (n + 1))).robot.position).sum
      = r.way cs := by
    refine congrArg List.sum (List.map_congr_left ?_)
    intro n member
    have before : n + 1 ≤ cs.length := List.mem_range.mp member
    rw [List.take_append_of_le_length before, List.take_append_of_le_length (by omega)]
  have whole : (cs ++ [c]).take (cs.length + 1) = cs ++ [c] :=
    List.take_of_length_le (by rw [List.length_append, List.length_singleton])
  rw [way, List.length_append, List.length_singleton, List.range_succ, List.map_append,
    List.sum_append, earlier, List.map_singleton, List.sum_singleton, List.take_left, whole,
    Interpreter.run_append, Interpreter.run_cons, Interpreter.run_nil]

theorem distance_le_way (r : Mk3) (cs : List Char) :
    r.position.distance (interpreter.run { robot := r } cs).robot.position ≤ r.way cs := by
  induction cs using List.reverseRecOn with
  | nil => exact r.position.distance_self.le
  | append_singleton cs c ih =>
    have further := r.position.distance_triangle
      (interpreter.run { robot := r } cs).robot.position
      (interpreter.advance (interpreter.run { robot := r } cs) c).robot.position
    rw [way_concat, Interpreter.run_append, Interpreter.run_cons, Interpreter.run_nil]
    omega

theorem way_le {r : Mk3} (inside : r.position.InQuadrant) (cs : List Char) :
    r.way cs + (interpreter.run { robot := r } cs).credit (leavesBoost cs)
      ≤ r.fuel.toNat + freeMoves cs := by
  induction cs using List.reverseRecOn with
  | nil =>
    change 0 + BoostedMk3.credit { robot := r } false ≤ (r.fuel.toNat : Int) + (0 : Nat)
    simp [BoostedMk3.credit_false]
  | append_singleton cs c ih =>
    have next := BoostedMk3.distance_advance_le (BoostedMk3.run_inQuadrant inside cs)
      (BoostedMk3.run_distance r) c
    rw [way_concat, leavesBoost_concat, freeMoves_concat, Interpreter.run_append,
      Interpreter.run_cons, Interpreter.run_nil]
    push_cast
    omega

theorem mileage_le {r : Mk3} (inside : r.position.InQuadrant) (text : String) :
    r.mileage text ≤ r.fuel.toNat - (r.execute text).robot.fuel.toNat + freeMoves text.toList := by
  have paid := way_le inside text.toList
  have left := BoostedMk3.credit_false_le (interpreter.run { robot := r } text.toList)
    (leavesBoost text.toList)
  rw [BoostedMk3.credit_false] at left
  rw [mileage_eq_way, execute_robot]
  omega

theorem distance_le_mileage (r : Mk3) (text : String) :
    r.position.distance (r.execute text).robot.position ≤ r.mileage text := by
  rw [mileage_eq_way, execute_robot]
  exact r.distance_le_way text.toList

/-! ## Any calls -/

def mileageAll (r : Mk3) : List String → Int
  | [] => 0
  | text :: texts => r.mileage text + (r.execute text).robot.mileageAll texts

theorem distance_le_mileageAll (r : Mk3) (texts : List String) :
    r.position.distance (afterAll Mk3.execute r texts).position ≤ r.mileageAll texts := by
  induction texts generalizing r with
  | nil => exact r.position.distance_self.le
  | cons text texts ih =>
    have first := r.distance_le_mileage text
    have later := ih (r.execute text).robot
    have whole := r.position.distance_triangle (r.execute text).robot.position
      (afterAll Mk3.execute (r.execute text).robot texts).position
    change r.position.distance (afterAll Mk3.execute (r.execute text).robot texts).position
      ≤ r.mileage text + (r.execute text).robot.mileageAll texts
    omega

theorem mileageAll_le {r : Mk3} (inside : r.position.InQuadrant) (texts : List String) :
    r.mileageAll texts
      ≤ r.fuel.toNat - (afterAll Mk3.execute r texts).fuel.toNat
        + (texts.map fun text => freeMoves text.toList).sum := by
  induction texts generalizing r with
  | nil => simp [mileageAll]
  | cons text texts ih =>
    have walled : (Robot.mk3 r).generation ≠ .mk1 := nofun
    have stays : ((Robot.mk3 r).execute text).robot.position.InQuadrant :=
      Robot.execute_inQuadrant walled inside text
    have first := mileage_le inside text
    have later := ih stays
    change r.mileage text + (r.execute text).robot.mileageAll texts
      ≤ r.fuel.toNat - (afterAll Mk3.execute (r.execute text).robot texts).fuel.toNat + _
    rw [List.map_cons, List.sum_cons]
    push_cast at later ⊢
    omega

end Mk3

/-- **Travel budget.** In any state that it can get into, a robot of the third generation has no
more in front of it than it pays for: what it burns in the calls to come, and one unit for each move
that burns no fuel. The whole way is within the budget, and not only where it leads. -/
theorem Mk3.afterAll_budget (start : Position) (config : Config) (before texts : List String) :
    let robot := afterAll Mk3.execute (Mk3.spawn start config) before
    let after := afterAll Mk3.execute robot texts
    let budget : Int := robot.fuel.toNat - after.fuel.toNat
      + (texts.map fun text => text.toList.count 'B' + unboosted text.toList).sum
    |after.position.x.val - robot.position.x.val| + |after.position.y.val - robot.position.y.val|
        ≤ budget
      ∧ after.fuel ≤ robot.fuel
      ∧ robot.position.distance after.position ≤ robot.mileageAll texts
      ∧ robot.mileageAll texts ≤ budget := by
  intro robot after budget
  have walled : (Robot.spawn .mk3 start config).generation ≠ .mk1 := nofun
  have inside : (Robot.mk3 robot).position.InQuadrant := by
    rw [← Robot.afterAll_mk3]
    exact Robot.afterAll_inQuadrant walled start.clamped_inQuadrant before
  have within : robot.mileageAll texts ≤ budget := mileageAll_le inside texts
  have straight := robot.distance_le_mileageAll texts
  refine ⟨straight.trans within, ?_, straight, within⟩
  rw [UInt32.le_iff_toNat_le, Mk3.afterAll_fuel]
  exact Nat.sub_le _ _

end GridRobot
