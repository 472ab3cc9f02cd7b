import GridRobot.Proofs.Locality
import GridRobot.Proofs.Unobstructed

/-! # Undoing a walk

A walk without boosts is undone by its instructions in reverse, each replaced by its opposite
(`execute_undone`). The way back asks for the displacements of the way out, in reverse and each with
its sign changed (`Robot.displacements_undoing`). It leads through the places of the way out once
more, and so nothing is in its way either (`Robot.unobstructed_undoing`). -/

namespace GridRobot

/-! ## The way back -/

/-- A character that asks for a move of one unit or for a turn. -/
def IsPlain (c : Char) : Prop :=
  c ∈ ['F', 'B', 'L', 'R']

instance (c : Char) : Decidable (IsPlain c) :=
  inferInstanceAs (Decidable (c ∈ _))

/-- What takes back a move or a turn. -/
def opposite : Char → Char
  | 'F' => 'B'
  | 'B' => 'F'
  | 'L' => 'R'
  | 'R' => 'L'
  | c => c

def wayBack (cs : List Char) : List Char :=
  cs.reverse.map opposite

/-- The text that takes back what another text does. -/
def undoing (text : String) : String :=
  String.ofList (wayBack text.toList)

theorem wayBack_cons (c : Char) (cs : List Char) :
    wayBack (c :: cs) = wayBack cs ++ [opposite c] := by
  simp [wayBack]

theorem IsPlain.cases {c : Char} (plain : IsPlain c) : c = 'F' ∨ c = 'B' ∨ c = 'L' ∨ c = 'R' := by
  simpa [IsPlain] using plain

theorem IsPlain.noDigit {c : Char} (plain : IsPlain c) : c.isDigit = false := by
  rcases plain.cases with rfl | rfl | rfl | rfl <;> rfl

theorem isPlain_opposite {c : Char} (plain : IsPlain c) : IsPlain (opposite c) := by
  rcases plain.cases with rfl | rfl | rfl | rfl <;> decide

theorem isPlain_of_mem_wayBack {cs : List Char} (plain : ∀ c ∈ cs, IsPlain c) :
    ∀ c ∈ wayBack cs, IsPlain c := by
  intro c member
  obtain ⟨d, among, rfl⟩ := List.mem_map.mp member
  exact isPlain_opposite (plain d (List.mem_reverse.mp among))

/-! ## Turns and moves taken back -/

theorem Orientation.turned_opposite (facing : Orientation) {c : Char} (plain : IsPlain c) :
    (facing.turned c).turned (opposite c) = facing := by
  rcases plain.cases with rfl | rfl | rfl | rfl <;> cases facing <;> rfl

theorem Orientation.foldl_turned_wayBack (facing : Orientation) {cs : List Char}
    (plain : ∀ c ∈ cs, IsPlain c) :
    (wayBack cs).foldl turned (cs.foldl turned facing) = facing := by
  induction cs generalizing facing with
  | nil => rfl
  | cons c cs ih =>
    rw [List.forall_mem_cons] at plain
    rw [wayBack_cons, List.foldl_append]
    change ((wayBack cs).foldl turned (cs.foldl turned (facing.turned c))).turned (opposite c)
      = facing
    rw [ih _ plain.2, facing.turned_opposite plain.1]

theorem Charge.asked_opposite {charge : Charge} (single : charge.distance = 1)
    (facing : Orientation) {c : Char} (plain : IsPlain c) :
    charge.asked (facing.turned c) (opposite c)
      = ((charge.asked facing c).map fun d => -d).reverse := by
  rcases plain.cases with rfl | rfl | rfl | rfl <;> cases facing <;>
    simp [asked, Orientation.turned, opposite, Orientation.delta, single]

/-- Walking back asks for what was walked, backwards. `next` leaves the charge as it is as long as
no digit comes. -/
theorem displacements_wayBack {next : Charge → Char → Charge} {charge : Charge}
    (single : charge.distance = 1) (keeps : ∀ c, IsPlain c → next charge c = charge)
    (facing : Orientation) {cs : List Char} (plain : ∀ c ∈ cs, IsPlain c) :
    displacements next (cs.foldl Orientation.turned facing) charge (wayBack cs)
      = ((displacements next facing charge cs).map fun d => -d).reverse := by
  have kept (ds : List Char) (plain : ∀ c ∈ ds, IsPlain c) : ds.foldl next charge = charge := by
    induction ds with
    | nil => rfl
    | cons d ds ih =>
      rw [List.forall_mem_cons] at plain
      rw [List.foldl_cons, keeps d plain.1, ih plain.2]
  induction cs generalizing facing with
  | nil => rfl
  | cons c cs ih =>
    have first := plain
    rw [List.forall_mem_cons] at first
    -- Once the rest is taken back, the robot faces as it did after `c`.
    rw [wayBack_cons, displacements_append, List.foldl_cons, ih _ first.2,
      Orientation.foldl_turned_wayBack _ first.2, kept _ (isPlain_of_mem_wayBack first.2),
      displacements, displacements, displacements, List.append_nil,
      Charge.asked_opposite single facing first.1, keeps c first.1, List.map_append,
      List.reverse_append]

theorem StaysWithin.reverse {floor c : Int} {ds : List Int} (least : floor ≤ c)
    (most : c ≤ greatestCoordinate) (stays : StaysWithin floor c ds) :
    StaysWithin floor (c + ds.sum) (ds.map fun d => -d).reverse := by
  induction ds generalizing c with
  | nil => trivial
  | cons d ds ih =>
    obtain ⟨within, rest⟩ := stays
    have later := ih within.1 within.2 rest
    have back : c + d + ds.sum + ((ds.map fun d => -d).reverse).sum = c + d := by
      rw [← List.sum_neg_reverse]
      omega
    rw [List.map_cons, List.reverse_cons, List.sum_cons, ← Int.add_assoc, append_iff, back]
    refine ⟨later, ⟨?_, ?_⟩, trivial⟩
    · omega
    · omega

/-! ## Texts without boosts -/

section Plain

variable {text : String} (plain : ∀ c ∈ text.toList, IsPlain c)

include plain

theorem digitsOf_of_plain : digitsOf text.toList = [] := by
  rw [digitsOf, List.map_eq_nil_iff, List.filter_eq_nil_iff]
  intro c member
  rw [(plain c member).noDigit]
  exact Bool.false_ne_true

theorem leavesBoost_of_plain : leavesBoost text.toList = false := by
  unfold leavesBoost
  cases last : (text.toList.filter concernsBoost).getLast? with
  | none => rfl
  | some c => exact (plain c (List.mem_of_mem_filter (List.mem_of_getLast? last))).noDigit

theorem Mk3.execute_fuel_of_plain (r : Mk3) : (r.execute text).robot.fuel = r.fuel := by
  apply UInt32.toNat_inj.mp
  rw [r.execute_fuel, digitsOf_of_plain plain]
  simp [demand]

namespace Robot

variable (robot : Robot)

theorem displacements_undoing :
    (robot.execute text).robot.displacements (undoing text)
      = ((robot.displacements text).map fun d => -d).reverse := by
  cases robot with
  | mk1 r =>
    have negated : ∀ c ∈ text.toList, Mk1.move? (.decode (opposite c))
        = (Mk1.move? (.decode c)).map fun d => -d := by
      intro c member
      rcases (plain c member).cases with rfl | rfl | rfl | rfl <;> rfl
    change (undoing text).toList.filterMap (fun c => Mk1.move? (.decode c))
      = ((text.toList.filterMap fun c => Mk1.move? (.decode c)).map fun d => -d).reverse
    rw [undoing, String.toList_ofList, wayBack, List.filterMap_map, List.filterMap_reverse,
      List.map_filterMap, ← List.filterMap_congr negated]
    rfl
  | mk2 r =>
    change (r.execute text).robot.displacements (undoing text)
      = ((r.displacements text).map fun d => -d).reverse
    rw [Mk2.displacements, Mk2.displacements, r.execute_orientation, undoing, String.toList_ofList]
    exact displacements_wayBack rfl (fun _ _ => rfl) _ plain
  | mk3 r =>
    have keeps (c : Char) (single : IsPlain c) :
        Charge.next r.maxBoost.toNat { fuel := r.fuel.toNat } c = { fuel := r.fuel.toNat } := by
      rcases single.cases with rfl | rfl | rfl | rfl <;> rfl
    change (r.execute text).robot.displacements (undoing text)
      = ((r.displacements text).map fun d => -d).reverse
    rw [Mk3.displacements, Mk3.displacements, r.execute_orientation, r.execute_maxBoost,
      r.execute_fuel_of_plain plain, undoing, String.toList_ofList]
    exact displacements_wayBack rfl keeps _ plain

/-- The same on one axis. -/
theorem map_displacements_undoing (axis : Axis) :
    ((robot.execute text).robot.displacements (undoing text)).map axis.component
      = (((robot.displacements text).map axis.component).map fun d => -d).reverse := by
  rw [displacements_undoing plain, List.map_reverse, List.map_map, List.map_map]
  cases axis <;> rfl

end Robot

end Plain

/-! ## Out and back -/

theorem Axis.position_ext {p q : Position}
    (same : ∀ axis : Axis, axis.coordinate p = axis.coordinate q) : p = q :=
  Position.ext_val (same .x) (same .y)

namespace Robot

/-- Where a robot may be, on an axis. -/
theorem within_of_inQuadrant {robot : Robot}
    (inside : robot.generation ≠ .mk1 → robot.position.InQuadrant) (axis : Axis) :
    robot.floor ≤ axis.coordinate robot.position := by
  cases robot with
  | mk1 r => cases axis with
    | x => exact r.position.x.least_le
    | y => exact r.position.y.least_le
  | mk2 r => exact axis.coordinate_nonneg (inside (by simp [generation]))
  | mk3 r => exact axis.coordinate_nonneg (inside (by simp [generation]))

variable {robot : Robot} {text : String} (plain : ∀ c ∈ text.toList, IsPlain c)
  (clear : robot.Unobstructed text)
  (inside : robot.generation ≠ .mk1 → robot.position.InQuadrant)

include plain clear inside

/-- The way back leads through the places of the way out, and last to where the robot set out. -/
theorem unobstructed_undoing : (robot.execute text).robot.Unobstructed (undoing text) := by
  intro axis
  rw [map_displacements_undoing plain, floor_execute, coordinate_of_unobstructed clear]
  exact (clear axis).reverse (within_of_inQuadrant inside axis) (axis.coordinate_le _)

theorem execute_undoing_position :
    ((robot.execute text).robot.execute (undoing text)).robot.position = robot.position := by
  apply Axis.position_ext
  intro axis
  rw [coordinate_of_unobstructed (unobstructed_undoing plain clear inside),
    coordinate_of_unobstructed clear, map_displacements_undoing plain,
    ← List.sum_neg_reverse]
  omega

theorem execute_undoing :
    ((robot.execute text).robot.execute (undoing text)).robot = robot := by
  have position := execute_undoing_position plain clear inside
  have plainBack : ∀ c ∈ (undoing text).toList, IsPlain c := by
    rw [undoing, String.toList_ofList]
    exact isPlain_of_mem_wayBack plain
  have facing (o : Orientation) :
      (undoing text).toList.foldl Orientation.turned (text.toList.foldl Orientation.turned o)
        = o := by
    rw [undoing, String.toList_ofList]
    exact o.foldl_turned_wayBack plain
  cases robot with
  | mk1 r =>
    rw [execute_mk1, execute_mk1] at position ⊢
    rw [position_mk1, position_mk1] at position
    rw [Mk1.execute_eq, position, Mk1.execute_eq]
  | mk2 r =>
    rw [execute_mk2, execute_mk2] at position ⊢
    rw [position_mk2, position_mk2] at position
    rw [Mk2.execute_eq, position, r.execute_orientation, facing, Mk2.execute_eq]
  | mk3 r =>
    rw [execute_mk3, execute_mk3] at position ⊢
    rw [position_mk3, position_mk3] at position
    rw [Mk3.execute_eq, position, Mk3.execute_fuel_of_plain plainBack,
      Mk3.execute_fuel_of_plain plain, r.execute_orientation, facing, Mk3.execute_eq]

end Robot

/-- **Undoing.** A robot in any state that it can get into follows a text without boosts and meets
nothing on its way. The opposite instructions in reverse then bring it back as it was, in a second
call or in the same one, and nothing is in the way of that either. -/
theorem execute_undone (generation : Generation) (start : Position) (config : Config)
    (before : List String) (text : String) (plain : ∀ c ∈ text.toList, c ∈ ['F', 'B', 'L', 'R'])
    (clear :
      (afterAll Robot.execute (Robot.spawn generation start config) before).Unobstructed text) :
    let robot := afterAll Robot.execute (Robot.spawn generation start config) before
    ((robot.execute text).robot.execute (undoing text)).robot = robot
      ∧ (robot.execute (text ++ undoing text)).robot = robot
      ∧ (robot.execute text).robot.Unobstructed (undoing text) := by
  intro robot
  have inside : robot.generation ≠ .mk1 → robot.position.InQuadrant := by
    intro walled
    rw [Robot.afterAll_generation] at walled
    have spawned : generation ≠ .mk1 := by rwa [Robot.spawn_generation] at walled
    exact Robot.afterAll_inQuadrant walled (Robot.spawn_inQuadrant spawned start config) before
  have twice := Robot.execute_undoing plain clear inside
  refine ⟨twice, ?_, Robot.unobstructed_undoing plain clear inside⟩
  rw [robot.execute_append_robot fun _ => .inl (leavesBoost_of_plain plain), twice]

/-- The way out touches the greatest coordinate on one axis and the wall on the other. The call
before it left a boost pending and spent fuel. -/
theorem execute_undone_touchingLimits :
    let start : Position := ⟨{ val := 9223372036854775806 }, { val := -3 }⟩
    let robot := afterAll Robot.execute (Robot.spawn .mk3 start { initialFuel := 7 }) ["LF4"]
    (∀ c ∈ "RRFFLFBFRB".toList, c ∈ ['F', 'B', 'L', 'R'])
      ∧ robot.Unobstructed "RRFFLFBFRB"
      ∧ (robot.execute "RRFFLFBFRB").robot.position ≠ robot.position
      ∧ undoing "RRFFLFBFRB" = "FLBFBRBBLL"
      ∧ ((robot.execute "RRFFLFBFRB").robot.execute (undoing "RRFFLFBFRB")).robot = robot
      ∧ (robot.execute ("RRFFLFBFRB" ++ undoing "RRFFLFBFRB")).robot = robot := by
  intro start robot
  have plain : ∀ c ∈ "RRFFLFBFRB".toList, c ∈ ['F', 'B', 'L', 'R'] := by simp
  have clear : robot.Unobstructed "RRFFLFBFRB" := by decide
  obtain ⟨twice, once, -⟩ :=
    execute_undone .mk3 start { initialFuel := 7 } ["LF4"] "RRFFLFBFRB" plain clear
  exact ⟨plain, clear, by decide +kernel, by decide +kernel, twice, once⟩

end GridRobot
