import GridRobot.Proofs.Locality
import GridRobot.Proofs.Splitting
import Mathlib

/-! # Headings

The two turns undo each other, and four of one kind lead back: they are `1` and `-1` of a cycle of
four (`Orientation.clockwise`). So all that a text does to a facing is one power of a quarter turn,
with the turns to the right less those to the left as its exponent (`Orientation.foldl_turned`).
Nothing else in the text matters, nor where one call ends and the next begins
(`afterAll_heading`). -/

namespace GridRobot

/-- How many quarter turns clockwise characters ask for in all; those the other way count
against them. -/
def netTurns (cs : List Char) : Int :=
  cs.count 'R' - cs.count 'L'

theorem netTurns_append (cs ds : List Char) :
    netTurns (cs ++ ds) = netTurns cs + netTurns ds := by
  simp only [netTurns, List.count_append]
  omega

theorem netTurns_cons (c : Char) (cs : List Char) :
    netTurns (c :: cs) = netTurns cs + netTurns [c] := by
  rw [← List.singleton_append, netTurns_append, Int.add_comm]

theorem netTurns_perm {cs ds : List Char} (same : cs.Perm ds) : netTurns cs = netTurns ds := by
  rw [netTurns, netTurns, same.count_eq, same.count_eq]

/-! ## The cycle of facings -/

namespace Orientation

/-- A quarter turn clockwise, undone by one the other way. -/
def clockwise : Equiv.Perm Orientation where
  toFun := rotateRight
  invFun := rotateLeft
  left_inv facing := by cases facing <;> rfl
  right_inv facing := by cases facing <;> rfl

theorem clockwise_pow_four : clockwise ^ 4 = 1 := by
  ext facing
  cases facing <;> rfl

/-- Of a number of quarter turns, only the remainder by four counts. -/
theorem clockwise_zpow (n : Int) (facing : Orientation) :
    (clockwise ^ n) facing = rotateRight^[(n % 4).toNat] facing := by
  have remainder : ((n % 4).toNat : Int) = n % 4 := Int.toNat_of_nonneg (by omega)
  have turns : (clockwise ^ n) = clockwise ^ (n % 4).toNat := by
    rw [zpow_eq_zpow_emod' n clockwise_pow_four, ← zpow_natCast, remainder]
    rfl
  rw [turns, ← Equiv.Perm.iterate_eq_pow]
  rfl

/-- Fewer than four quarter turns lead to facings that differ. -/
theorem iterate_rotateRight_inj (facing : Orientation) :
    ∀ m < 4, ∀ n < 4, rotateRight^[m] facing = rotateRight^[n] facing → m = n := by
  cases facing <;> decide

theorem clockwise_zpow_eq_iff (m n : Int) (facing : Orientation) :
    (clockwise ^ m) facing = (clockwise ^ n) facing ↔ m ≡ n [ZMOD 4] := by
  rw [clockwise_zpow, clockwise_zpow, Int.ModEq]
  constructor
  · intro same
    have turns := iterate_rotateRight_inj facing _ (by omega) _ (by omega) same
    omega
  · intro same
    rw [same]

theorem turned_eq (facing : Orientation) (c : Char) :
    facing.turned c = (clockwise ^ netTurns [c]) facing := by
  unfold turned
  split
  next left =>
    have back : netTurns ['L'] = -1 := rfl
    rw [left, back, zpow_neg_one]
    rfl
  next notLeft =>
    split
    next right =>
      have once : netTurns ['R'] = 1 := rfl
      rw [right, once, zpow_one]
      rfl
    next notRight =>
      have never : netTurns [c] = 0 := by simp [netTurns, notLeft, notRight]
      rw [never, zpow_zero]
      rfl

theorem foldl_turned (facing : Orientation) (cs : List Char) :
    cs.foldl turned facing = (clockwise ^ netTurns cs) facing := by
  induction cs generalizing facing with
  | nil => rfl
  | cons c cs ih =>
    rw [List.foldl_cons, ih, turned_eq, netTurns_cons c cs, zpow_add, Equiv.Perm.mul_apply]

end Orientation

/-! ## Robots -/

namespace Robot

/-- Robots of the first generation show no facing, before or after. -/
theorem execute_orientation (robot : Robot) (text : String) :
    (robot.execute text).robot.reading.orientation
      = robot.reading.orientation.map (Orientation.clockwise ^ netTurns text.toList) := by
  cases robot with
  | mk1 r => rfl
  | mk2 r =>
    exact congrArg some ((r.execute_orientation text).trans (Orientation.foldl_turned _ _))
  | mk3 r =>
    exact congrArg some ((r.execute_orientation text).trans (Orientation.foldl_turned _ _))

theorem afterAll_orientation (robot : Robot) (texts : List String) :
    (afterAll execute robot texts).reading.orientation
      = robot.reading.orientation.map
          (Orientation.clockwise ^ netTurns (texts.flatMap String.toList)) := by
  induction texts generalizing robot with
  | nil =>
    change robot.reading.orientation = robot.reading.orientation.map id
    rw [Option.map_id_fun, id]
  | cons text texts ih =>
    rw [afterAll_cons, ih, execute_orientation, Option.map_map, List.flatMap_cons, netTurns_append,
      Int.add_comm, zpow_add, Equiv.Perm.coe_mul]

end Robot

/-- **Headings are counted.** After any calls a robot faces as before, turned clockwise once for
each `R` and back for each `L`, and only the remainder by four of the difference counts. Two robots
that face alike, whatever else sets them and their calls apart, come to face alike exactly if that
remainder is the same; so they do if their calls hold the same characters in any order. -/
theorem afterAll_heading (robot : Robot) (walled : robot.generation ≠ .mk1) (texts : List String) :
    (∃ facing, robot.reading.orientation = some facing
        ∧ (afterAll Robot.execute robot texts).reading.orientation
          = some (Orientation.rotateRight^[(netTurns (texts.flatMap String.toList) % 4).toNat]
              facing))
      ∧ ∀ (other : Robot) (otherTexts : List String),
          other.reading.orientation = robot.reading.orientation →
          ((afterAll Robot.execute other otherTexts).reading.orientation
                = (afterAll Robot.execute robot texts).reading.orientation
              ↔ netTurns (otherTexts.flatMap String.toList)
                ≡ netTurns (texts.flatMap String.toList) [ZMOD 4])
            ∧ ((otherTexts.flatMap String.toList).Perm (texts.flatMap String.toList) →
                (afterAll Robot.execute other otherTexts).reading.orientation
                  = (afterAll Robot.execute robot texts).reading.orientation) := by
  obtain ⟨facing, faces⟩ := Option.isSome_iff_exists.mp
    (robot.reading_orientation_isSome.mpr walled)
  constructor
  · refine ⟨facing, faces, ?_⟩
    rw [robot.afterAll_orientation, faces, Option.map_some, Orientation.clockwise_zpow]
  · intro other otherTexts alike
    -- Both turn the one facing that they share, so only the exponents are left to compare.
    have remainders : (afterAll Robot.execute other otherTexts).reading.orientation
          = (afterAll Robot.execute robot texts).reading.orientation
        ↔ netTurns (otherTexts.flatMap String.toList)
          ≡ netTurns (texts.flatMap String.toList) [ZMOD 4] := by
      rw [other.afterAll_orientation, robot.afterAll_orientation, alike, faces, Option.map_some,
        Option.map_some, Option.some_inj, Orientation.clockwise_zpow_eq_iff]
    refine ⟨remainders, ?_⟩
    intro shuffled
    rw [remainders, netTurns_perm shuffled]

/-- The same characters in two calls and in one, followed by robots of two generations at two
places. Five turns to the right and two to the left leave three quarters. -/
theorem afterAll_heading_shuffled :
    let robot : Robot := .mk3 ⟨.origin, .left, 9, 5, true⟩
    let other : Robot := .mk2 ⟨⟨{ val := 7 }, .zero⟩, .left, false⟩
    let texts := ["R5RéFL", "RLRR"]
    let otherTexts := ["LLRRRRR5éF"]
    robot.generation ≠ .mk1
      ∧ other.reading.orientation = robot.reading.orientation
      ∧ (otherTexts.flatMap String.toList).Perm (texts.flatMap String.toList)
      ∧ netTurns (texts.flatMap String.toList) = 3
      ∧ (afterAll Robot.execute robot texts).reading.orientation = some .backward
      ∧ (afterAll Robot.execute other otherTexts).reading.orientation
        = (afterAll Robot.execute robot texts).reading.orientation := by
  intro robot other texts otherTexts
  have shuffled : (otherTexts.flatMap String.toList).Perm (texts.flatMap String.toList) := by
    decide
  obtain ⟨⟨facing, faces, after⟩, alike⟩ := afterAll_heading robot (by decide) texts
  cases faces
  exact ⟨by decide, rfl, shuffled, by decide, after, (alike other otherTexts rfl).2 shuffled⟩

end GridRobot
