import GridRobot.Proofs.Reporting
import GridRobot.Proofs.Script.Resuming
import GridRobot.Proofs.Wire.RoundTrip

/-! # Reports that robots make are in range

A report counts each character of its text once, as taken or as ignored, and every index in it is
that of a character (`Report.Covers`). So if the length of a text is a word of 64 bits, then so is
each number that a robot reports of it (`Robot.runOf_inRange`). -/

namespace GridRobot

/-! ## What a report covers -/

/-- The report is about that many characters, each counted once. -/
structure Report.Covers (n : Nat) (r : Report) : Prop where
  counted : r.executed + r.ignored = n
  warnings : ∀ w ∈ r.warnings, w.index < n
  steps : ∀ s ∈ r.steps, s.index < n

namespace Report.Covers

theorem empty : Covers 0 {} where
  counted := rfl
  warnings _ member := absurd member List.not_mem_nil
  steps _ member := absurd member List.not_mem_nil

/-- The report on a text from what is noted of its first character and the report on the rest. -/
theorem cons {first rest : Report} {n : Nat} (one : first.Covers 1) (more : rest.Covers n) :
    (first ++ rest.delayed 1).Covers (n + 1) where
  counted := by
    have here := one.counted
    have there := more.counted
    simp only [executed_append, ignored_append, Report.delayed]
    omega
  warnings w member := by
    rcases List.mem_append.mp member with here | there
    · exact Nat.lt_of_lt_of_le (one.warnings w here) (Nat.le_add_left 1 n)
    · obtain ⟨earlier, among, rfl⟩ := List.mem_map.mp there
      exact Nat.succ_lt_succ (more.warnings earlier among)
  steps s member := by
    rcases List.mem_append.mp member with here | there
    · exact Nat.lt_of_lt_of_le (one.steps s here) (Nat.le_add_left 1 n)
    · obtain ⟨earlier, among, rfl⟩ := List.mem_map.mp there
      exact Nat.succ_lt_succ (more.steps earlier among)

theorem inRange {r : Report} {n : Nat} (covers : r.Covers n) (fits : n < UInt64.size) :
    r.InRange where
  executed := by have counted := covers.counted; omega
  ignored := by have counted := covers.counted; omega
  warnings w member := Nat.lt_trans (covers.warnings w member) fits
  steps s member := Nat.lt_trans (covers.steps s member) fits

end Report.Covers

theorem Generation.noted_covers (generation : Generation) (recordTrace : Bool) (reading : Reading)
    (c : Char) : (generation.noted recordTrace reading 0 c).Covers 1 := by
  cases understood : generation.understands (.decode c) with
  | true =>
    rw [noted_of_understood _ _ understood]
    refine ⟨rfl, fun _ member => absurd member List.not_mem_nil, fun s member => ?_⟩
    cases recordTrace with
    | true => rw [List.mem_singleton.mp member]; exact Nat.one_pos
    | false => exact absurd member List.not_mem_nil
  | false =>
    rw [noted_of_ignored _ _ understood]
    refine ⟨rfl, fun w member => ?_, fun _ member => absurd member List.not_mem_nil⟩
    cases warns : generation.warns with
    | true =>
      simp only [warns] at member
      rw [List.mem_singleton.mp member]
      exact Nat.one_pos
    | false =>
      simp only [warns] at member
      exact absurd member List.not_mem_nil

theorem Interpreter.report_covers {σ : Type} {i : Interpreter σ} (takes : i.TakesUnderstood)
    (recordTrace : Bool) (state : σ) (cs : List Char) :
    (i.report recordTrace state cs).Covers cs.length := by
  induction cs generalizing state with
  | nil => exact .empty
  | cons c cs ih =>
    rw [report_cons takes]
    exact .cons (Generation.noted_covers _ _ _ c) (ih (i.advance state c))

/-! ## Runs that are in range -/

namespace Robot

theorem execute_covers (robot : Robot) (text : String) :
    (robot.execute text).report.Covers text.length := by
  obtain ⟨σ, i, start, plays⟩ := robot.exists_plays
  rw [plays.report, ← text.length_toList]
  exact Interpreter.report_covers plays.takes _ start text.toList

theorem runOf_inRange (robot : Robot) {text : String} (fits : text.length < UInt64.size) :
    (robot.runOf text).InRange :=
  (robot.execute_covers text).inRange fits

theorem runs_inRange (robot : Robot) {texts : List String}
    (fits : ∀ text ∈ texts, text.length < UInt64.size) : ∀ run ∈ robot.runs texts, run.InRange := by
  induction texts generalizing robot with
  | nil => exact List.forall_mem_nil _
  | cons text texts ih =>
    intro run member
    rw [runs_cons] at member
    rcases List.mem_cons.mp member with rfl | later
    · exact robot.runOf_inRange (fits text List.mem_cons_self)
    · exact ih _ (fun other among => fits other (List.mem_cons_of_mem text among)) run later

end Robot
end GridRobot
