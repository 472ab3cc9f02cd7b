import GridRobot.Proofs.Splitting

/-! # Walks that nothing cuts short

A wall or an end of the range cuts a move short, and what is cut off is lost. Where every move that
a text asks for leads to a place that the robot may be at (`Robot.Unobstructed`), nothing is lost,
and positions are sums of displacements in whole numbers (`Robot.coordinate_of_unobstructed`). The
robots of all generations are treated alike: they differ in the floor under their coordinates, and
in what a text asks of them. -/

namespace GridRobot

/-! ## One axis -/

/-- One coordinate after a displacement, of which as much is cut off as leads below a floor or
beyond the greatest coordinate. -/
def limited (floor c d : Int) : Int :=
  max floor (min (c + d) greatestCoordinate)

/-- Displacements of which nothing is cut off: each leads, in whole numbers of any size, to a
coordinate within the limits. -/
def StaysWithin (floor : Int) : Int → List Int → Prop
  | _, [] => True
  | c, d :: ds => (floor ≤ c + d ∧ c + d ≤ greatestCoordinate) ∧ StaysWithin floor (c + d) ds

instance StaysWithin.decidable (floor : Int) : ∀ c ds, Decidable (StaysWithin floor c ds)
  | _, [] => .isTrue trivial
  | c, d :: ds =>
    have := decidable floor (c + d) ds
    inferInstanceAs (Decidable (_ ∧ _))

namespace StaysWithin

variable {floor c : Int} {ds es : List Int}

theorem foldl_limited (stays : StaysWithin floor c ds) :
    ds.foldl (limited floor) c = c + ds.sum := by
  induction ds generalizing c with
  | nil => rw [List.foldl_nil, List.sum_nil, Int.add_zero]
  | cons d ds ih =>
    obtain ⟨within, rest⟩ := stays
    have step : limited floor c d = c + d := by
      unfold limited
      omega
    rw [List.foldl_cons, step, ih rest, List.sum_cons, Int.add_assoc]

theorem append_iff :
    StaysWithin floor c (ds ++ es)
      ↔ StaysWithin floor c ds ∧ StaysWithin floor (c + ds.sum) es := by
  induction ds generalizing c with
  | nil => simp [StaysWithin]
  | cons d ds ih =>
    simp only [List.cons_append, StaysWithin, ih, List.sum_cons, Int.add_assoc, and_assoc]

end StaysWithin

/-! ## What robots are led through -/

namespace Robot

/-- The least coordinate that a robot may be at. -/
def floor : Robot → Int
  | mk1 _ => leastCoordinate
  | mk2 _ | mk3 _ => 0

/-- Where a displacement leads. Robots of the first generation know no walls. -/
def lead : Robot → Position → Int × Int → Position
  | mk1 _, p, d => p.offset d.1 d.2
  | mk2 _, p, d | mk3 _, p, d => p.stride d

theorem coordinate_lead (robot : Robot) (axis : Axis) (p : Position) (d : Int × Int) :
    axis.coordinate (robot.lead p d)
      = limited robot.floor (axis.coordinate p) (axis.component d) := by
  cases robot with
  | mk1 r => cases axis <;> rfl
  | mk2 r => exact axis.coordinate_stride p d
  | mk3 r => exact axis.coordinate_stride p d

theorem coordinate_foldl_lead (robot : Robot) (axis : Axis) (p : Position)
    (ds : List (Int × Int)) :
    axis.coordinate (ds.foldl robot.lead p)
      = (ds.map axis.component).foldl (limited robot.floor) (axis.coordinate p) := by
  induction ds generalizing p with
  | nil => rfl
  | cons d ds ih => rw [List.foldl_cons, ih, coordinate_lead, List.map_cons, List.foldl_cons]

end Robot

theorem Mk1.advance_position (r : Mk1) (c : Char) :
    (interpreter.advance r c).position
      = ((move? (.decode c)).map fun d => r.position.offset d.1 d.2).getD r.position := by
  change ((step r (.decode c)).getD r).position = _
  rw [step]
  cases move? (.decode c) <;> rfl

theorem Mk1.run_position (r : Mk1) (cs : List Char) :
    (interpreter.run r cs).position
      = (cs.filterMap fun c => move? (.decode c)).foldl (fun p d => p.offset d.1 d.2)
          r.position := by
  induction cs generalizing r with
  | nil => rfl
  | cons c cs ih =>
    rw [Interpreter.run_cons, ih, advance_position, List.filterMap_cons]
    cases move? (.decode c) <;> rfl

namespace Robot

variable {robot : Robot} {text : String}

/-- A robot of any generation is led through the displacements that the text asks for. -/
theorem execute_led (robot : Robot) (text : String) :
    (robot.execute text).robot.position
      = (robot.displacements text).foldl robot.lead robot.position := by
  cases robot with
  | mk1 r =>
    change (r.execute text).robot.position = _
    rw [Mk1.execute_robot]
    exact r.run_position text.toList
  | mk2 r => exact (mk2 r).execute_position (by simp [generation]) text
  | mk3 r => exact (mk3 r).execute_position (by simp [generation]) text

/-! ## Texts that nothing obstructs -/

/-- Neither a wall nor an end of the range is in the way of a move that the text asks for: on each
axis, what it leads to in whole numbers of any size is within the limits. -/
def Unobstructed (robot : Robot) (text : String) : Prop :=
  ∀ axis : Axis, StaysWithin robot.floor (axis.coordinate robot.position)
    ((robot.displacements text).map axis.component)

instance (robot : Robot) (text : String) : Decidable (robot.Unobstructed text) :=
  decidable_of_iff
    (StaysWithin robot.floor (Axis.x.coordinate robot.position)
        ((robot.displacements text).map Axis.x.component)
      ∧ StaysWithin robot.floor (Axis.y.coordinate robot.position)
        ((robot.displacements text).map Axis.y.component))
    ⟨fun both => fun | .x => both.1 | .y => both.2, fun all => ⟨all .x, all .y⟩⟩

theorem coordinate_of_unobstructed (clear : robot.Unobstructed text) (axis : Axis) :
    axis.coordinate (robot.execute text).robot.position
      = axis.coordinate robot.position
        + ((robot.displacements text).map axis.component).sum := by
  rw [execute_led, coordinate_foldl_lead, (clear axis).foldl_limited]

theorem floor_execute (robot : Robot) (text : String) :
    (robot.execute text).robot.floor = robot.floor := by
  cases robot <;> rfl

end Robot

/-! ## Apart from the position

Nothing is ever in the way of a turn or a digit, and the rest of a robot stays as it was made. -/

namespace Robot

theorem position_mk1 (r : Mk1) : (mk1 r).position = r.position := rfl

theorem position_mk2 (r : Mk2) : (mk2 r).position = r.position := rfl

theorem position_mk3 (r : Mk3) : (mk3 r).position = r.position := rfl

variable (text : String)

theorem execute_mk1 (r : Mk1) : ((mk1 r).execute text).robot = mk1 (r.execute text).robot := rfl

theorem execute_mk2 (r : Mk2) : ((mk2 r).execute text).robot = mk2 (r.execute text).robot := rfl

theorem execute_mk3 (r : Mk3) : ((mk3 r).execute text).robot = mk3 (r.execute text).robot := rfl

end Robot

theorem Mk1.execute_eq (r : Mk1) (text : String) :
    (r.execute text).robot = { r with position := (r.execute text).robot.position } := by
  have traced : (r.execute text).robot.recordTrace = r.recordTrace := by
    rw [execute_robot]
    exact interpreter.run_unchanged recordTrace selfContained.keeps r text.toList
  rw [← traced]

theorem Mk2.execute_eq (r : Mk2) (text : String) :
    (r.execute text).robot
      = { r with
          position := (r.execute text).robot.position
          orientation := text.toList.foldl Orientation.turned r.orientation } := by
  have traced : (r.execute text).robot.recordTrace = r.recordTrace := by
    rw [execute_robot]
    exact interpreter.run_unchanged recordTrace selfContained.keeps r text.toList
  rw [← traced, ← r.execute_orientation text]

theorem Mk3.execute_eq (r : Mk3) (text : String) :
    (r.execute text).robot
      = { r with
          position := (r.execute text).robot.position
          orientation := text.toList.foldl Orientation.turned r.orientation
          fuel := (r.execute text).robot.fuel } := by
  have traced : (r.execute text).robot.recordTrace = r.recordTrace := by
    rw [execute_robot, BoostedMk3.run_recordTrace]
  rw [← traced, ← r.execute_orientation text, ← r.execute_maxBoost text]

/-! ## Texts in two parts -/

theorem displacements_append (next : Charge → Char → Charge) (facing : Orientation)
    (charge : Charge) (cs ds : List Char) :
    displacements next facing charge (cs ++ ds)
      = displacements next facing charge cs
        ++ displacements next (cs.foldl Orientation.turned facing) (cs.foldl next charge) ds := by
  induction cs generalizing facing charge with
  | nil => rfl
  | cons c cs ih =>
    rw [List.cons_append, displacements, displacements, ih, List.append_assoc]
    rfl

/-- What the beginning of a text asks for comes first. -/
theorem Robot.displacements_prefix (robot : Robot) (a b : String) :
    robot.displacements a <+: robot.displacements (a ++ b) := by
  cases robot with
  | mk1 r =>
    simp only [displacements, String.toList_append, List.filterMap_append]
    exact List.prefix_append _ _
  | mk2 r =>
    simp only [displacements, Mk2.displacements, String.toList_append, displacements_append]
    exact List.prefix_append _ _
  | mk3 r =>
    simp only [displacements, Mk3.displacements, String.toList_append, displacements_append]
    exact List.prefix_append _ _

theorem Robot.Unobstructed.of_append {robot : Robot} {a b : String}
    (clear : robot.Unobstructed (a ++ b)) : robot.Unobstructed a := by
  intro axis
  obtain ⟨rest, whole⟩ := robot.displacements_prefix a b
  have stays := clear axis
  rw [← whole, List.map_append, StaysWithin.append_iff] at stays
  exact stays.1

end GridRobot
