import GridRobot.Proofs.Reporting
import GridRobot.Proofs.Script.Resuming
import Mathlib.Data.List.Forall2

/-! # Two robots that are told the same

What two robots do with the same texts is compared step by step. A relation between states that
every character keeps, and that bounds what the two show, is a `Simulation`; from it follows how
the reports on a whole text are related, and `Robot.runs_related` goes on to whole sequences of
calls. Whatever is related, counts and warnings are the same, for they hang on the text alone. -/

namespace GridRobot

variable {shows : Reading → Reading → Prop}

/-! ## Related steps and reports -/

/-- Steps with the same instruction, each of which shows what `shows` allows beside the other. -/
structure Step.Related (shows : Reading → Reading → Prop) (s t : Step) : Prop where
  index : s.index = t.index
  instruction : s.instruction = t.instruction
  reading : shows s.toReading t.toReading

/-- Reports that differ at most in what their steps show. -/
structure Report.Related (shows : Reading → Reading → Prop) (r s : Report) : Prop where
  untraced : r.untraced = s.untraced
  steps : List.Forall₂ (Step.Related shows) r.steps s.steps

theorem Step.Related.delayed (n : Nat) {s t : Step} (related : Related shows s t) :
    Related shows (s.delayed n) (t.delayed n) where
  index := congrArg (· + n) related.index
  instruction := related.instruction
  reading := related.reading

theorem Step.eq_of_related (same : ∀ {r s}, shows r s → r = s) {s t : Step}
    (related : Related shows s t) : s = t := by
  obtain ⟨index, instruction, reading⟩ := related
  obtain ⟨_, _, _⟩ := s
  obtain ⟨_, _, _⟩ := t
  simp only at index instruction reading
  rw [index, instruction, same reading]

theorem Report.eq_of_related (same : ∀ {r s}, shows r s → r = s) {r s : Report}
    (related : Related shows r s) : r = s := by
  have steps : r.steps = s.steps := by
    rw [← List.forall₂_eq_eq_eq]
    exact related.steps.imp fun _ _ => Step.eq_of_related same
  ext1
  · exact (congrArg executed related.untraced :)
  · exact (congrArg ignored related.untraced :)
  · exact (congrArg warnings related.untraced :)
  · exact steps

theorem Generation.noted_steps_related (generation : Generation) (recordTrace : Bool)
    {reading reading' : Reading} (related : shows reading reading') (index : Nat) (c : Char) :
    List.Forall₂ (Step.Related shows) (generation.noted recordTrace reading index c).steps
      (generation.noted recordTrace reading' index c).steps := by
  cases understood : generation.understands (.decode c) with
  | true =>
    rw [noted_of_understood _ _ understood, noted_of_understood _ _ understood]
    cases recordTrace with
    | true => exact .cons ⟨rfl, rfl, related⟩ .nil
    | false => exact .nil
  | false =>
    rw [noted_of_ignored _ _ understood, noted_of_ignored _ _ understood]
    exact .nil

/-- States that stay `alike` as they follow the same text, and show what `shows` allows. To be
alike may depend on the text that is still to come. -/
structure Interpreter.Simulation {σ : Type} (i : Interpreter σ)
    (alike : σ → σ → List Char → Prop) (shows : Reading → Reading → Prop) : Prop where
  advance {s t : σ} {c : Char} {cs : List Char} :
    alike s t (c :: cs) → alike (i.advance s c) (i.advance t c) cs
  reading {s t : σ} {cs : List Char} : alike s t cs → shows (i.reading s) (i.reading t)

/-- A change of the state that every step passes on, and that does not show. -/
theorem Interpreter.Simulation.of_passedOn {σ : Type} {i : Interpreter σ} {change : σ → σ}
    (step : ∀ s instruction, i.step (change s) instruction = (i.step s instruction).map change)
    (reading : ∀ s, i.reading (change s) = i.reading s) :
    i.Simulation (fun s t _ => t = change s) Eq where
  advance {s _ c _} := by
    rintro rfl
    rw [Interpreter.advance, Interpreter.advance, step]
    cases i.step s (.decode c) <;> rfl
  reading {s _ _} := by
    rintro rfl
    exact (reading s).symm

namespace Interpreter.Simulation

variable {σ : Type} {i : Interpreter σ} {alike : σ → σ → List Char → Prop}
  (simulation : i.Simulation alike shows) {s t : σ} {cs : List Char} (rest : List Char)

include simulation

theorem run (start : alike s t (cs ++ rest)) : alike (i.run s cs) (i.run t cs) rest := by
  induction cs generalizing s t with
  | nil => exact start
  | cons c cs ih => exact ih (simulation.advance start)

theorem report (takes : i.TakesUnderstood) (recordTrace : Bool) (start : alike s t (cs ++ rest)) :
    (i.report recordTrace s cs).Related shows (i.report recordTrace t cs) where
  untraced := by rw [report_untraced takes, report_untraced takes]
  steps := by
    induction cs generalizing s t with
    | nil => exact .nil
    | cons c cs ih =>
      -- What is reported of the other characters is the report from the next states, delayed.
      have next := simulation.advance start
      rw [report_cons takes, report_cons takes, Report.steps_append, Report.steps_append]
      refine List.rel_append (i.generation.noted_steps_related _ (simulation.reading next) 0 c) ?_
      rw [Report.delayed, Report.delayed, List.forall₂_map_left_iff, List.forall₂_map_right_iff]
      exact (ih next).imp fun _ _ => .delayed 1

end Interpreter.Simulation

/-! ## Calls -/

/-- Runs that differ at most in what the robots show. -/
structure Run.Related (shows : Reading → Reading → Prop) (r s : Run) : Prop where
  generation : r.generation = s.generation
  reading : shows r.toReading s.toReading
  report : r.report.Related shows s.report

theorem Run.eq_of_related (same : ∀ {r s}, shows r s → r = s) {r s : Run}
    (related : Related shows r s) : r = s := by
  obtain ⟨generation, reading, report⟩ := related
  obtain ⟨_, _, _⟩ := r
  obtain ⟨_, _, _⟩ := s
  simp only at generation reading report
  rw [generation, same reading, Report.eq_of_related same report]

/-- What one call keeps, a sequence of calls keeps. To be alike may depend on the texts that are
still to come. -/
theorem Robot.runs_related {alike : Robot → Robot → List String → Prop} {related : Run → Run → Prop}
    (call : ∀ {r s : Robot} {text : String} {texts : List String}, alike r s (text :: texts) →
      related (r.runOf text) (s.runOf text)
        ∧ alike (r.execute text).robot (s.execute text).robot texts)
    {r s : Robot} {texts : List String} (start : alike r s texts) :
    List.Forall₂ related (r.runs texts) (s.runs texts) := by
  induction texts generalizing r s with
  | nil => exact .nil
  | cons text texts ih =>
    obtain ⟨first, later⟩ := call start
    exact .cons first (ih later)

end GridRobot
