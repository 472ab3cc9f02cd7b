import GridRobot.Proofs.Reflection
import GridRobot.Proofs.Reporting
import GridRobot.Proofs.Script.Resuming
import Mathlib

/-! # Two robots that start apart

Two robots that differ only in where they start are led by the same moves, and no move carries one
past the other or further away from it: where a wall or an end of the range stops both it keeps
their distance or takes from it, and where it stops one alone the other can only catch up
(`runs_narrow`). Nothing but positions tells the two apart.

`Interpreter.Movable` says of a generation that the position is moved by the instructions and has
no say in anything else. What one step does to two positions is then a function of positions that
is `Narrowing`, the same one for both robots. -/

namespace GridRobot

/-! ## Moves that narrow -/

/-- How far the second position is ahead of the first along an axis. -/
def Axis.gap (axis : Axis) (p q : Position) : Int :=
  axis.coordinate q - axis.coordinate p

/-- Where one position is ahead of another, it stays ahead, and by no more than before. -/
def Narrowing (move : Position → Position) : Prop :=
  ∀ (axis : Axis) (p q : Position), 0 ≤ axis.gap p q →
    0 ≤ axis.gap (move p) (move q) ∧ axis.gap (move p) (move q) ≤ axis.gap p q

/-- Limits at both ends of an axis, or at one, keep the order of two coordinates and take from
their difference at most. -/
theorem gap_of_limits {c c' : Int} (ahead : 0 ≤ c' - c) (least greatest d : Int) :
    0 ≤ max least (min (c' + d) greatest) - max least (min (c + d) greatest)
      ∧ max least (min (c' + d) greatest) - max least (min (c + d) greatest) ≤ c' - c := by
  omega

namespace Narrowing

theorem id : Narrowing id :=
  fun _ _ _ ahead => ⟨ahead, le_rfl⟩

theorem comp {first second : Position → Position} (later : Narrowing second)
    (earlier : Narrowing first) : Narrowing (second ∘ first) := by
  intro axis p q ahead
  have before := earlier axis p q ahead
  have after := later axis (first p) (first q) before.1
  exact ⟨after.1, after.2.trans before.2⟩

theorem offset (dx dy : Int) : Narrowing fun p => p.offset dx dy := by
  intro axis p q ahead
  cases axis with
  | x => exact gap_of_limits ahead leastCoordinate greatestCoordinate dx
  | y => exact gap_of_limits ahead leastCoordinate greatestCoordinate dy

theorem drive (facing : Orientation) (distance : Int) :
    Narrowing fun p => p.drive facing distance := by
  intro axis p q ahead
  simp only [Axis.gap, Position.drive_eq_stride, Axis.coordinate_stride, bounded]
  exact gap_of_limits ahead 0 greatestCoordinate _

theorem clamped : Narrowing Position.clamped := by
  intro axis p q ahead
  have floor (p : Position) : axis.coordinate p.clamped = max 0 (axis.coordinate p) := by
    cases axis with
    | x => exact p.x.val_clampToZero
    | y => exact p.y.val_clampToZero
  rw [Axis.gap] at ahead
  rw [Axis.gap, Axis.gap, floor, floor]
  omega

end Narrowing

/-! ### Pairs of positions -/

/-- What has become of two positions: on no axis has the second fallen behind, and on none is it
further ahead than it was. -/
def Narrowed (before after : Position × Position) : Prop :=
  ∀ axis : Axis, 0 ≤ axis.gap after.1 after.2
    ∧ axis.gap after.1 after.2 ≤ axis.gap before.1 before.2

namespace Narrowed

theorem trans {a b c : Position × Position} (first : Narrowed a b) (second : Narrowed b c) :
    Narrowed a c :=
  fun axis => ⟨(second axis).1, (second axis).2.trans (first axis).2⟩

instance : Trans Narrowed Narrowed Narrowed := ⟨trans⟩

theorem of_narrowing {move : Position → Position} (narrowing : Narrowing move)
    {p q : Position} (ahead : ∀ axis : Axis, 0 ≤ axis.gap p q) :
    Narrowed (p, q) (move p, move q) :=
  fun axis => narrowing axis p q (ahead axis)

/-- Pairs that come after a later pair come after an earlier one as well. -/
theorem pairwise_earlier {a b : Position × Position} {pairs : List (Position × Position)}
    (narrowed : Narrowed a b) (later : (b :: pairs).Pairwise Narrowed) :
    (a :: pairs).Pairwise Narrowed := by
  obtain ⟨all, rest⟩ := List.pairwise_cons.mp later
  exact List.pairwise_cons.mpr ⟨fun pair member => narrowed.trans (all pair member), rest⟩

theorem pairwise_cons {a b : Position × Position} {pairs : List (Position × Position)}
    (narrowed : Narrowed a b) (later : (b :: pairs).Pairwise Narrowed) :
    (a :: b :: pairs).Pairwise Narrowed := by
  refine List.pairwise_cons.mpr ⟨?_, later⟩
  intro pair member
  rcases List.mem_cons.mp member with rfl | among
  · exact narrowed
  · exact (List.pairwise_cons.mp (pairwise_earlier narrowed later)).1 pair among

/-- Two stretches of pairs that meet in one pair. -/
theorem pairwise_append {a b : Position × Position} {pairs more : List (Position × Position)}
    (first : (a :: (pairs ++ [b])).Pairwise Narrowed) (second : (b :: more).Pairwise Narrowed) :
    (a :: (pairs ++ [b] ++ more)).Pairwise Narrowed := by
  rw [← List.isChain_iff_pairwise] at first second ⊢
  have meeting : a :: (pairs ++ [b] ++ more) = (a :: pairs) ++ b :: more := by simp
  rw [meeting]
  exact List.isChain_split.mpr ⟨first, second⟩

end Narrowed

/-! ## Without the position -/

/-- A step with nothing left of where the robot was. -/
def Step.unplaced (s : Step) : Step :=
  { s with position := .origin }

def Report.unplaced (r : Report) : Report :=
  { r with steps := r.steps.map Step.unplaced }

def Run.unplaced (run : Run) : Run :=
  { run with position := .origin, report := run.report.unplaced }

theorem Report.unplaced_append (first second : Report) :
    (first ++ second).unplaced = first.unplaced ++ second.unplaced := by
  ext1 <;> simp [unplaced]

theorem Report.unplaced_delayed (n : Nat) (r : Report) :
    (r.delayed n).unplaced = r.unplaced.delayed n := by
  ext1 <;> simp [unplaced, delayed, Step.unplaced, Step.delayed]

theorem Generation.noted_unplaced (generation : Generation) (recordTrace : Bool)
    (reading : Reading) (p : Position) (index : Nat) (c : Char) :
    (generation.noted recordTrace { reading with position := p } index c).unplaced
      = (generation.noted recordTrace reading index c).unplaced := by
  cases understood : generation.understands (.decode c) with
  | true =>
    rw [noted_of_understood _ _ understood, noted_of_understood _ _ understood]
    cases recordTrace <;> rfl
  | false => rw [noted_of_ignored _ _ understood, noted_of_ignored _ _ understood]

/-! ## Robots that are moved -/

/-- The instructions move the position about, and all else goes its way without regard to it.
`place` puts a state somewhere else. -/
structure Interpreter.Movable {σ : Type} (i : Interpreter σ) (place : σ → Position → σ) : Prop where
  reading (s : σ) (p : Position) : i.reading (place s p) = { i.reading s with position := p }
  advance (s : σ) (c : Char) :
    ∃ move, Narrowing move ∧ ∀ p, i.advance (place s p) c = place (i.advance s c) (move p)

def Mk1.placed (r : Mk1) (p : Position) : Mk1 :=
  { r with position := p }

def Mk2.placed (r : Mk2) (p : Position) : Mk2 :=
  { r with position := p }

def Mk3.placed (r : Mk3) (p : Position) : Mk3 :=
  { r with position := p }

def BoostedMk3.placed (s : BoostedMk3) (p : Position) : BoostedMk3 :=
  { s with robot := s.robot.placed p }

theorem Mk1.movable : interpreter.Movable placed where
  reading _ _ := rfl
  advance r c := by
    obtain ⟨instruction, decoded, reads⟩ := Instruction.exists_reads c
    cases reads with
    | forward => exact ⟨_, .offset 1 0, fun _ => rfl⟩
    | backward => exact ⟨_, .offset (-1) 0, fun _ => rfl⟩
    | left => exact ⟨_, .offset 0 1, fun _ => rfl⟩
    | right => exact ⟨_, .offset 0 (-1), fun _ => rfl⟩
    | digit | other =>
      refine ⟨id, .id, ?_⟩
      intro p
      rw [Interpreter.advance_of_decode decoded, Interpreter.advance_of_decode decoded]
      rfl

theorem Mk2.movable : interpreter.Movable placed where
  reading _ _ := rfl
  advance r c := by
    obtain ⟨instruction, decoded, reads⟩ := Instruction.exists_reads c
    cases reads with
    | forward => exact ⟨_, .drive r.orientation 1, fun _ => rfl⟩
    | backward => exact ⟨_, .drive r.orientation (-1), fun _ => rfl⟩
    | left | right => exact ⟨id, .id, fun _ => rfl⟩
    | digit | other =>
      refine ⟨id, .id, ?_⟩
      intro p
      rw [Interpreter.advance_of_decode decoded, Interpreter.advance_of_decode decoded]
      rfl

theorem BoostedMk3.movable : interpreter.Movable placed where
  reading _ _ := rfl
  advance s c := by
    obtain ⟨instruction, decoded, reads⟩ := Instruction.exists_reads c
    cases reads with
    | forward => exact ⟨_, .drive s.robot.orientation s.boost.distance.toNat, fun _ => rfl⟩
    | backward => exact ⟨_, .drive s.robot.orientation (-1), fun _ => rfl⟩
    | left | right => exact ⟨id, .id, fun _ => rfl⟩
    | digit | other =>
      refine ⟨id, .id, ?_⟩
      intro p
      rw [Interpreter.advance_of_decode decoded, Interpreter.advance_of_decode decoded]
      rfl

namespace Interpreter

variable {σ : Type} {i : Interpreter σ} {place : σ → Position → σ} (movable : i.Movable place)

include movable

theorem run_place (s : σ) (cs : List Char) :
    ∃ move, Narrowing move ∧ ∀ p, i.run (place s p) cs = place (i.run s cs) (move p) := by
  induction cs generalizing s with
  | nil => exact ⟨_, .id, fun _ => rfl⟩
  | cons c cs ih =>
    obtain ⟨first, firstNarrowing, advances⟩ := movable.advance s c
    obtain ⟨rest, restNarrowing, runs⟩ := ih (i.advance s c)
    refine ⟨rest ∘ first, restNarrowing.comp firstNarrowing, ?_⟩
    intro p
    rw [run_cons, run_cons, advances, runs]
    rfl

theorem position_place (s : σ) (p : Position) : (i.reading (place s p)).position = p := by
  rw [movable.reading]

variable (takes : i.TakesUnderstood) (recordTrace : Bool)

include takes

theorem report_place (s : σ) (p : Position) (cs : List Char) :
    (i.report recordTrace (place s p) cs).unplaced = (i.report recordTrace s cs).unplaced := by
  induction cs generalizing s p with
  | nil => rfl
  | cons c cs ih =>
    obtain ⟨move, -, advances⟩ := movable.advance s c
    rw [report_cons takes, report_cons takes, Report.unplaced_append, Report.unplaced_append,
      Report.unplaced_delayed, Report.unplaced_delayed, advances, ih, movable.reading,
      Generation.noted_unplaced]

end Interpreter

/-! ### Where a robot is seen -/

/-- Where a robot is seen while it follows a text: at each recorded step, and in the end. -/
def Interpreter.track {σ : Type} (i : Interpreter σ) (recordTrace : Bool) (s : σ)
    (cs : List Char) : List Position :=
  (i.report recordTrace s cs).steps.map (·.position) ++ [(i.reading (i.run s cs)).position]

namespace Interpreter

variable {σ : Type} {i : Interpreter σ} (takes : i.TakesUnderstood) (recordTrace : Bool)

include takes

theorem track_cons (s : σ) (c : Char) (cs : List Char) :
    i.track recordTrace s (c :: cs)
      = (if i.generation.understands (.decode c) && recordTrace then
          [(i.reading (i.advance s c)).position] else [])
        ++ i.track recordTrace (i.advance s c) cs := by
  have later : ((i.report recordTrace (i.advance s c) cs).delayed 1).steps.map (·.position)
      = (i.report recordTrace (i.advance s c) cs).steps.map (·.position) := by
    simp [Report.delayed, Step.delayed]
  rw [track, report_cons takes, Report.steps_append, List.map_append, later, track, run_cons]
  cases understood : i.generation.understands (.decode c) with
  | true =>
    rw [Generation.noted_of_understood _ _ understood]
    cases recordTrace <;> simp
  | false =>
    rw [Generation.noted_of_ignored _ _ understood]
    simp

/-- The two positions never move apart, from one place where the robots are seen to the next. -/
theorem track_narrowed {place : σ → Position → σ} (movable : i.Movable place) (s : σ)
    {p q : Position} (ahead : ∀ axis : Axis, 0 ≤ axis.gap p q) (cs : List Char) :
    ((p, q) :: (i.track recordTrace (place s p) cs).zip
      (i.track recordTrace (place s q) cs)).Pairwise Narrowed := by
  induction cs generalizing s p q with
  | nil =>
    have still : Narrowed (p, q) (p, q) := .of_narrowing .id ahead
    simpa [track, report, follow, position_place movable] using still
  | cons c cs ih =>
    obtain ⟨move, narrowing, advances⟩ := movable.advance s c
    have narrowed : Narrowed (p, q) (move p, move q) := .of_narrowing narrowing ahead
    have later := ih (i.advance s c) fun axis => (narrowed axis).1
    -- Both robots are seen after `c`, or neither is, for both understand the same characters.
    rw [track_cons takes, track_cons takes, advances, advances, position_place movable,
      position_place movable]
    split
    · exact narrowed.pairwise_cons later
    · exact narrowed.pairwise_earlier later

end Interpreter

/-! ## Calls -/

def Robot.placed : Robot → Position → Robot
  | mk1 r, p => mk1 (r.placed p)
  | mk2 r, p => mk2 (r.placed p)
  | mk3 r, p => mk3 (r.placed p)

/-- Where a robot was seen in a run. -/
def Run.track (run : Run) : List Position :=
  run.report.steps.map (·.position) ++ [run.position]

/-- Where a robot is seen from now on, over all calls. -/
def Robot.track (robot : Robot) (texts : List String) : List Position :=
  robot.position :: (robot.runs texts).flatMap Run.track

namespace Run

theorem length_steps_unplaced (run : Run) :
    run.unplaced.report.steps.length = run.report.steps.length :=
  List.length_map _

theorem length_track_unplaced (run : Run) : run.unplaced.track.length = run.track.length := by
  simp [track, length_steps_unplaced]

theorem length_flatMap_track_unplaced (runs : List Run) :
    ((runs.map unplaced).flatMap track).length = (runs.flatMap track).length := by
  simp [List.length_flatMap, List.map_map, Function.comp_def, length_track_unplaced]

/-- The last that is seen of two robots is where they are left. -/
theorem zip_track_of_unplaced {run other : Run} (same : run.unplaced = other.unplaced) :
    run.track.zip other.track
      = (run.report.steps.map (·.position)).zip (other.report.steps.map (·.position))
        ++ [(run.position, other.position)] := by
  apply List.zip_append
  rw [List.length_map, List.length_map, ← length_steps_unplaced, same, length_steps_unplaced]

end Run

namespace Robot

variable (robot : Robot)

theorem spawn_placed (generation : Generation) (config : Config) :
    ∃ robot move, Narrowing move
      ∧ ∀ start, spawn generation start config = placed robot (move start) := by
  cases generation with
  | mk1 => exact ⟨spawn .mk1 .origin config, id, .id, fun _ => rfl⟩
  | mk2 => exact ⟨spawn .mk2 .origin config, _, .clamped, fun _ => rfl⟩
  | mk3 => exact ⟨spawn .mk3 .origin config, _, .clamped, fun _ => rfl⟩

theorem reading_placed (p : Position) :
    (robot.placed p).reading = { robot.reading with position := p } := by
  cases robot <;> rfl

theorem position_placed (p : Position) : (robot.placed p).position = p :=
  congrArg Reading.position (robot.reading_placed p)

theorem generation_placed (p : Position) : (robot.placed p).generation = robot.generation := by
  cases robot <;> rfl

theorem recordTrace_placed (p : Position) : (robot.placed p).recordTrace = robot.recordTrace := by
  cases robot <;> rfl

/-- Wherever a robot is put, the same interpreter makes all that it shows. -/
theorem exists_movable :
    ∃ (σ : Type) (i : Interpreter σ) (place : σ → Position → σ) (start : σ),
      i.Movable place ∧ ∀ p, (robot.placed p).Plays i (place start p) := by
  cases robot with
  | mk1 r => exact ⟨_, _, _, r, Mk1.movable, fun p => plays_mk1 (r.placed p)⟩
  | mk2 r => exact ⟨_, _, _, r, Mk2.movable, fun p => plays_mk2 (r.placed p)⟩
  | mk3 r =>
    refine ⟨_, _, _, { robot := r }, BoostedMk3.movable, ?_⟩
    exact fun p => plays_mk3 (r.placed p)

theorem execute_placed (text : String) :
    ∃ move, Narrowing move ∧ ∀ p, ((robot.placed p).execute text).robot
      = (robot.execute text).robot.placed (move p) := by
  cases robot with
  | mk1 r =>
    obtain ⟨move, narrowing, runs⟩ := Interpreter.run_place Mk1.movable r text.toList
    refine ⟨move, narrowing, ?_⟩
    intro p
    change mk1 ((r.placed p).execute text).robot = mk1 ((r.execute text).robot.placed (move p))
    rw [Mk1.execute_robot, Mk1.execute_robot, runs]
  | mk2 r =>
    obtain ⟨move, narrowing, runs⟩ := Interpreter.run_place Mk2.movable r text.toList
    refine ⟨move, narrowing, ?_⟩
    intro p
    change mk2 ((r.placed p).execute text).robot = mk2 ((r.execute text).robot.placed (move p))
    rw [Mk2.execute_robot, Mk2.execute_robot, runs]
  | mk3 r =>
    obtain ⟨move, narrowing, runs⟩ :=
      Interpreter.run_place BoostedMk3.movable { robot := r } text.toList
    refine ⟨move, narrowing, ?_⟩
    intro p
    change mk3 ((r.placed p).execute text).robot = mk3 ((r.execute text).robot.placed (move p))
    rw [Mk3.execute_robot, Mk3.execute_robot]
    exact congrArg (fun s => mk3 s.robot) (runs p)

variable (p q : Position) (text : String) (texts : List String)

theorem execute_placed_report :
    ((robot.placed p).execute text).report.unplaced
      = ((robot.placed q).execute text).report.unplaced := by
  obtain ⟨σ, i, place, start, movable, plays⟩ := robot.exists_movable
  rw [(plays p).report, (plays q).report, recordTrace_placed, recordTrace_placed,
    Interpreter.report_place movable (plays p).takes,
    Interpreter.report_place movable (plays p).takes]

theorem runOf_placed :
    ((robot.placed p).runOf text).unplaced = ((robot.placed q).runOf text).unplaced := by
  obtain ⟨move, -, moved⟩ := robot.execute_placed text
  have report := robot.execute_placed_report p q text
  simp only [runOf, Run.capture, Run.unplaced, moved, reading_placed, generation_placed, report]

theorem runs_placed :
    ((robot.placed p).runs texts).map Run.unplaced
      = ((robot.placed q).runs texts).map Run.unplaced := by
  induction texts generalizing robot p q with
  | nil => rfl
  | cons text texts ih =>
    obtain ⟨move, -, moved⟩ := robot.execute_placed text
    rw [runs_cons, runs_cons, List.map_cons, List.map_cons, moved, moved, ih _ (move p) (move q),
      runOf_placed robot p q]

variable {p q}

/-- What one call does to two positions. -/
theorem runOf_narrowed (ahead : ∀ axis : Axis, 0 ≤ axis.gap p q) :
    ((p, q) :: ((robot.placed p).runOf text).track.zip
      ((robot.placed q).runOf text).track).Pairwise Narrowed := by
  obtain ⟨σ, i, place, start, movable, plays⟩ := robot.exists_movable
  have seen (p : Position) : ((robot.placed p).runOf text).track
      = i.track robot.recordTrace (place start p) text.toList := by
    simp only [runOf, Run.track, Run.capture, Interpreter.track, (plays p).report,
      (plays p).reading, recordTrace_placed]
  rw [seen, seen]
  exact Interpreter.track_narrowed (plays p).takes _ movable start ahead text.toList

/-- What any calls do to two positions. The calls are strung together by the positions that the
robots are left in. -/
theorem track_narrowed (ahead : ∀ axis : Axis, 0 ≤ axis.gap p q) :
    (((robot.placed p).track texts).zip ((robot.placed q).track texts)).Pairwise Narrowed := by
  rw [track, track, position_placed, position_placed, List.zip_cons_cons]
  induction texts generalizing robot p q with
  | nil => exact List.pairwise_singleton _ _
  | cons text texts ih =>
    obtain ⟨move, narrowing, moved⟩ := robot.execute_placed text
    have same := robot.runOf_placed p q text
    have call := robot.runOf_narrowed text ahead
    have left (p : Position) : ((robot.placed p).runOf text).position = move p := by
      change ((robot.placed p).execute text).robot.position = move p
      rw [moved, position_placed]
    have later := ih (robot.execute text).robot fun axis => (narrowing axis p q (ahead axis)).1
    have long : ((robot.placed p).runOf text).track.length
        = ((robot.placed q).runOf text).track.length := by
      rw [← Run.length_track_unplaced, same, Run.length_track_unplaced]
    rw [runs_cons, runs_cons, List.flatMap_cons, List.flatMap_cons, List.zip_append long, moved,
      moved]
    rw [Run.zip_track_of_unplaced same, left, left] at call ⊢
    exact Narrowed.pairwise_append call later

end Robot

/-- **Two starts.** Robots of one generation and configuration that start apart, and are told the
same, differ in nothing but positions. On each axis the one ahead stays ahead, and from one
place where they are seen to any later one its lead does not grow. -/
theorem runs_narrow (generation : Generation) (config : Config) (p q : Position)
    (x : p.x.val ≤ q.x.val) (y : p.y.val ≤ q.y.val) (texts : List String) :
    let behind := Robot.spawn generation p config
    let ahead := Robot.spawn generation q config
    (behind.runs texts).map Run.unplaced = (ahead.runs texts).map Run.unplaced
      ∧ (behind.track texts).length = (ahead.track texts).length
      ∧ ∀ axis : Axis,
          (((p, q) :: (behind.track texts).zip (ahead.track texts)).map
            fun pair => axis.gap pair.1 pair.2).Pairwise fun earlier later =>
              0 ≤ later ∧ later ≤ earlier ∧ (earlier = 0 → later = 0) := by
  intro behind ahead
  obtain ⟨robot, move, narrowing, spawned⟩ := Robot.spawn_placed generation config
  have left : behind = robot.placed (move p) := spawned p
  have right : ahead = robot.placed (move q) := spawned q
  have start (axis : Axis) : 0 ≤ axis.gap p q := by
    cases axis with
    | x => exact Int.sub_nonneg.mpr x
    | y => exact Int.sub_nonneg.mpr y
  have entered : Narrowed (p, q) (move p, move q) := .of_narrowing narrowing start
  have same := robot.runs_placed (move p) (move q) texts
  rw [left, right]
  refine ⟨same, ?_, ?_⟩
  · rw [Robot.track, Robot.track, List.length_cons, List.length_cons,
      ← Run.length_flatMap_track_unplaced, same, Run.length_flatMap_track_unplaced]
  · intro axis
    have tracks := robot.track_narrowed texts fun axis => (entered axis).1
    rw [Robot.track, Robot.track, Robot.position_placed, Robot.position_placed,
      List.zip_cons_cons] at tracks ⊢
    rw [List.pairwise_map]
    refine (entered.pairwise_cons tracks).imp ?_
    intro earlier later narrowed
    obtain ⟨nonneg, shrunk⟩ := narrowed axis
    refine ⟨nonneg, shrunk, ?_⟩
    intro met
    omega

/-- Walls stop the one robot and later the other: the lead along `x` shrinks until it is gone. -/
theorem runs_narrow_untilMet :
    let p : Position := ⟨{ val := -9 }, { val := 2 }⟩
    let q : Position := ⟨{ val := 1 }, { val := 9223372036854775806 }⟩
    let behind := Robot.spawn .mk3 p { recordTrace := true }
    let ahead := Robot.spawn .mk3 q { recordTrace := true }
    p.x.val ≤ q.x.val ∧ p.y.val ≤ q.y.val
      ∧ ((behind.track ["2F?", "LFB"]).zip (ahead.track ["2F?", "LFB"])).map
          (fun pair => Axis.x.gap pair.1 pair.2) = [1, 1, 1, 1, 1, 0, 0, 0]
      ∧ (behind.runs ["2F?", "LFB"]).map Run.unplaced
        = (ahead.runs ["2F?", "LFB"]).map Run.unplaced
      ∧ (((p, q) :: (behind.track ["2F?", "LFB"]).zip (ahead.track ["2F?", "LFB"])).map
          fun pair => Axis.y.gap pair.1 pair.2).Pairwise fun earlier later =>
            0 ≤ later ∧ later ≤ earlier ∧ (earlier = 0 → later = 0) := by
  intro p q behind ahead
  have x : p.x.val ≤ q.x.val := by decide
  have y : p.y.val ≤ q.y.val := by decide
  obtain ⟨same, -, narrow⟩ := runs_narrow .mk3 { recordTrace := true } p q x y ["2F?", "LFB"]
  exact ⟨x, y, by decide, same, narrow .y⟩

end GridRobot
