import GridRobot.Proofs.Trace

/-! # Every character is accounted for

A report counts each character of its text once, as taken or as ignored, and which of the two it is
can be looked up in the instruction table of the generation (`execute_partition`). A robot of the
first generation warns of each character that it ignores. If it also records its steps, then steps
and warnings together hold the whole text: merged by index, they give it back character by
character. -/

namespace GridRobot

/-! ## What an instruction table names -/

/-- Whether the entry of a row names a character: as its only character, or as one of a range. -/
def entryNames (entry : String) (c : Char) : Bool :=
  match entry.toList with
  | [only] => c == only
  | [first, '-', last] => first ≤ c && c ≤ last
  | _ => false

namespace Generation

variable (generation : Generation)

/-- Whether a row of the instruction table names a character. The row for all other characters is
left out. -/
def names (c : Char) : Bool :=
  (generation.instructionTable.filter fun (entry, _) => entry != "other").any
    fun (entry, _) => entryNames entry c

theorem names_iff (c : Char) :
    generation.names c = true
      ↔ c ∈ ['F', 'B', 'L', 'R'] ∨ generation = .mk3 ∧ '0' ≤ c ∧ c ≤ '9' := by
  cases generation with
  | mk1 => simp [names, instructionTable, entryNames]
  | mk2 => simp [names, instructionTable, entryNames]
  -- The digits come first in the table of the third generation.
  | mk3 => simp [names, instructionTable, entryNames, or_comm]

theorem warns_iff : generation.warns = true ↔ generation = .mk1 := by
  cases generation <;> simp [warns]

theorem isDigit_iff {c : Char} : c.isDigit = true ↔ '0' ≤ c ∧ c ≤ '9' := by
  simp [Char.isDigit, Char.le_def]

theorem understands_decode_iff (c : Char) :
    generation.understands (.decode c) = true
      ↔ c ∈ ['F', 'B', 'L', 'R'] ∨ generation = .mk3 ∧ '0' ≤ c ∧ c ≤ '9' := by
  rw [← isDigit_iff]
  obtain ⟨instruction, decoded, reads⟩ := Instruction.exists_reads c
  rw [decoded]
  cases reads with
  | forward | backward | left | right => simp [understands]
  | digit isDigit =>
    have noLetter : c ∉ ['F', 'B', 'L', 'R'] := by
      simp [Instruction.ne_of_isDigit isDigit]
    cases generation <;> simp [understands, noLetter, isDigit]
  | other noDigit notForward notBackward notLeft notRight =>
    cases generation <;>
      simp [understands, noDigit, notForward, notBackward, notLeft, notRight]

/-- The table names the characters that a robot takes, and no others. -/
theorem names_eq_understands :
    generation.names = fun c => generation.understands (.decode c) := by
  funext c
  rw [Bool.eq_iff_iff, names_iff, understands_decode_iff]

end Generation

/-! ## Merging what was told apart -/

section Merge

variable {α : Type} {before : α → α → Bool}

theorem merge_cons_left {a : α} (as : List α) {bs : List α} (first : ∀ b ∈ bs, before a b = true) :
    (a :: as).merge bs before = a :: as.merge bs before := by
  cases bs with
  | nil => simp
  | cons b bs => exact List.cons_merge_cons_pos _ _ _ (first b List.mem_cons_self)

theorem merge_cons_right {b : α} {as : List α} (bs : List α)
    (first : ∀ a ∈ as, before a b = false) :
    as.merge (b :: bs) before = b :: as.merge bs before := by
  cases as with
  | nil => simp
  | cons a as =>
    exact List.cons_merge_cons_neg _ _ _ (by simp [first a List.mem_cons_self])

/-- A list in order comes out of its two parts again. -/
theorem merge_filter (p : α → Bool) {as : List α}
    (ordered : as.Pairwise fun a b => before a b = true ∧ before b a = false) :
    (as.filter p).merge (as.filter fun a => !p a) before = as := by
  induction as with
  | nil => simp
  | cons a as ih =>
    obtain ⟨first, rest⟩ := List.pairwise_cons.mp ordered
    cases selected : p a with
    | true =>
      rw [List.filter_cons_of_pos selected, List.filter_cons_of_neg (by simp [selected]),
        merge_cons_left, ih rest]
      exact fun b member => (first b (List.mem_of_mem_filter member)).1
    | false =>
      rw [List.filter_cons_of_neg (by simp [selected]),
        List.filter_cons_of_pos (by simp [selected]), merge_cons_right, ih rest]
      exact fun b member => (first b (List.mem_of_mem_filter member)).2

end Merge

/-! ## A text in two parts -/

/-- The characters that a report tells of, each with its index: those of the steps and those of the
warnings, merged by index. -/
def Report.characters (r : Report) : List (Char × Nat) :=
  (r.steps.map fun step => (step.instruction.toChar, step.index)).merge
    (r.warnings.map fun warning => (warning.character, warning.index))
    fun p q => p.2 ≤ q.2

theorem map_fst_located (p : Char → Bool) (cs : List Char) :
    (located p cs).map Prod.fst = cs.filter p := by
  calc (located p cs).map Prod.fst = (cs.zipIdx.map Prod.fst).filter p := List.filter_map.symm
    _ = cs.filter p := by rw [List.zipIdx_map_fst]

theorem length_located (p : Char → Bool) (cs : List Char) :
    (located p cs).length = cs.countP p := by
  rw [List.countP_eq_length_filter, ← map_fst_located, List.length_map]

namespace Robot

variable (robot : Robot) (text : String)

theorem execute_executed :
    (robot.execute text).report.executed = text.toList.countP robot.generation.names := by
  rw [Generation.names_eq_understands]
  exact congrArg Report.executed (robot.execute_untraced text)

theorem execute_ignored :
    (robot.execute text).report.ignored
      = text.toList.countP fun c => !robot.generation.names c := by
  rw [Generation.names_eq_understands]
  exact congrArg Report.ignored (robot.execute_untraced text)

theorem execute_warnings :
    (robot.execute text).report.warnings
      = if robot.generation.warns then
          (located (fun c => !robot.generation.names c) text.toList).map fun (character, index) =>
            { index, character }
        else [] := by
  rw [Generation.names_eq_understands]
  exact congrArg Report.warnings (robot.execute_untraced text)

theorem execute_counted :
    (robot.execute text).report.executed + (robot.execute text).report.ignored = text.length := by
  rw [execute_executed, execute_ignored, ← String.length_toList,
    List.length_eq_countP_add_countP robot.generation.names]
  simp only [Bool.not_eq_true, Bool.decide_eq_false]

theorem execute_hasWarnings (warns : robot.generation.warns = true) :
    (robot.execute text).report.hasWarnings = true ↔ 0 < (robot.execute text).report.ignored := by
  rw [Report.hasWarnings, execute_warnings, if_pos warns, execute_ignored, Bool.not_eq_true',
    List.isEmpty_eq_false_iff, ← List.length_pos_iff, List.length_map, length_located]

theorem execute_steps_located (traced : robot.recordTrace = true) :
    ((robot.execute text).report.steps.map fun step => (step.instruction.toChar, step.index))
      = located robot.generation.names text.toList := by
  rw [robot.execute_report_steps traced, List.map_map, Generation.names_eq_understands]
  simp [Function.comp_def, Instruction.toChar_decode, Generation.understood, located]

theorem execute_characters (traced : robot.recordTrace = true)
    (warns : robot.generation.warns = true) :
    (robot.execute text).report.characters = text.toList.zipIdx := by
  -- The steps hold the characters that were taken, the warnings all others.
  have steps := robot.execute_steps_located text traced
  have warnings : ((robot.execute text).report.warnings.map fun warning =>
      (warning.character, warning.index))
      = located (fun c => !robot.generation.names c) text.toList := by
    rw [robot.execute_warnings, if_pos warns, List.map_map]
    simp [Function.comp_def]
  have ordered : text.toList.zipIdx.Pairwise fun p q =>
      decide (p.2 ≤ q.2) = true ∧ decide (q.2 ≤ p.2) = false := by
    refine (zipIdx_pairwise text.toList).imp ?_
    intro p q earlier
    simp only [decide_eq_true_eq, decide_eq_false_iff_not]
    omega
  rw [Report.characters, steps, warnings]
  exact merge_filter (fun entry => robot.generation.names entry.1) ordered

end Robot

/-- **Partition.** Each character is taken or ignored, and the instruction table says which. Only
the first generation warns, and of nothing but what it ignores. Steps and warnings of such a robot,
merged by index, are the text. -/
theorem execute_partition (robot : Robot) (text : String) :
    let generation := robot.generation
    let report := (robot.execute text).report
    report.executed + report.ignored = text.length
      ∧ report.executed = text.toList.countP generation.names
      ∧ (∀ c, generation.names c = true
        ↔ c ∈ ['F', 'B', 'L', 'R'] ∨ generation = .mk3 ∧ '0' ≤ c ∧ c ≤ '9')
      ∧ (generation ≠ .mk1 → report.warnings = [])
      ∧ (generation = .mk1 →
        report.warnings
            = (located (fun c => !generation.names c) text.toList).map (fun (character, index) =>
                { index, character })
          ∧ (report.hasWarnings = true ↔ 0 < report.ignored)
          ∧ (robot.recordTrace = true →
            report.characters.map Prod.snd = List.range text.length
              ∧ String.ofList (report.characters.map Prod.fst) = text)) := by
  intro generation report
  refine ⟨robot.execute_counted text, robot.execute_executed text, generation.names_iff, ?_, ?_⟩
  · intro silent
    change (robot.execute text).report.warnings = []
    rw [robot.execute_warnings text, if_neg]
    exact fun warns => silent (generation.warns_iff.mp warns)
  · intro first
    have warns : robot.generation.warns = true := generation.warns_iff.mpr first
    refine ⟨?_, robot.execute_hasWarnings text warns, ?_⟩
    · change (robot.execute text).report.warnings = _
      rw [robot.execute_warnings text, if_pos warns]
    · intro traced
      rw [robot.execute_characters text traced warns, List.zipIdx_map_snd, List.zipIdx_map_fst,
        ← List.range_eq_range', String.length_toList, String.ofList_toList]
      exact ⟨rfl, rfl⟩

/-- A robot of the first generation that records its steps. -/
def tracedMk1 : Robot :=
  .mk1 ⟨.origin, true⟩

/-- Digits are ignored by the first generation like any other character, and a character of several
bytes counts once. The third generation takes the digit, and does not warn of the rest. -/
theorem execute_partition_tracedMk1 :
    let report := (tracedMk1.execute "é7FxL").report
    let boosted := Robot.spawn .mk3 .origin {}
    (tracedMk1.generation = .mk1 ∧ tracedMk1.recordTrace = true
        ∧ (located (fun c => !tracedMk1.generation.names c) "é7FxL".toList)
          = [('é', 0), ('7', 1), ('x', 3)]
        ∧ report.executed + report.ignored = 5
        ∧ report.warnings = [⟨0, 'é'⟩, ⟨1, '7'⟩, ⟨3, 'x'⟩]
        ∧ report.characters.map Prod.snd = [0, 1, 2, 3, 4]
        ∧ String.ofList (report.characters.map Prod.fst) = "é7FxL")
      ∧ boosted.generation ≠ .mk1
      ∧ "é7FxL".toList.countP boosted.generation.names = 3
      ∧ (boosted.execute "é7FxL").report.executed = 3
      ∧ (boosted.execute "é7FxL").report.warnings = [] := by
  intro report boosted
  obtain ⟨counted, -, -, -, first⟩ := execute_partition tracedMk1 "é7FxL"
  obtain ⟨warnings, -, merged⟩ := first rfl
  obtain ⟨indices, characters⟩ := merged rfl
  have ignored : located (fun c => !tracedMk1.generation.names c) "é7FxL".toList
      = [('é', 0), ('7', 1), ('x', 3)] := by decide
  rw [ignored] at warnings
  obtain ⟨-, taken, -, silent, -⟩ := execute_partition boosted "é7FxL"
  have later : boosted.generation ≠ .mk1 := by decide
  have named : "é7FxL".toList.countP boosted.generation.names = 3 := by decide
  exact ⟨⟨rfl, rfl, ignored, counted, warnings, indices, characters⟩, later, named,
    taken.trans named, silent later⟩

end GridRobot
