import GridRobot.Proofs.Json.Printing

/-! # Where a value ends

Two written forms tell by themselves where a value ends, so several values may stand in one text. A
compact value holds no control character and is a line of its own (`noControl_compact`). An array
or object ends with its last bracket, and a reader that gives out each value as soon as it is
complete reads one after another, whatever gaps stand between (`stream?_of_interspersed`). -/

namespace GridRobot.Json

/-! ## A compact value is one line -/

/-- The characters are for one line only, without tabs or carriage returns either. -/
def NoControl (cs : List Char) : Prop :=
  ∀ c ∈ cs, ¬ c.toNat < 0x20

instance (cs : List Char) : Decidable (NoControl cs) :=
  List.decidableBAll (fun c : Char => ¬ c.toNat < 0x20) cs

namespace NoControl

theorem append {cs ds : List Char} (first : NoControl cs) (second : NoControl ds) :
    NoControl (cs ++ ds) :=
  fun c member => (List.mem_append.mp member).elim (first c) (second c)

theorem flatMap {α : Type} {as : List α} {charsOf : α → List Char}
    (each : ∀ a, NoControl (charsOf a)) : NoControl (as.flatMap charsOf) := by
  intro c member
  obtain ⟨a, -, member⟩ := List.mem_flatMap.mp member
  exact each a c member

theorem newline_not_mem {cs : List Char} (noControl : NoControl cs) : '\n' ∉ cs :=
  fun member => noControl '\n' member (by decide)

theorem return_not_mem {cs : List Char} (noControl : NoControl cs) : '\r' ∉ cs :=
  fun member => noControl '\r' member (by decide)

theorem digitChar : ∀ n : Fin 16, NoControl [Nat.digitChar n.val] := by
  decide

theorem digits {cs : List Char} (digits : ∀ c ∈ cs, c.isDigit = true) : NoControl cs := by
  intro c member
  have least : (48 : Nat) ≤ c.toNat := (Char.isDigit_iff_toNat.mp (digits c member)).1
  omega

end NoControl

theorem Literal.noControl_of_writes {c : Char} {cs : List Char} (writes : Writes c cs) :
    NoControl cs := by
  cases writes with
  | @escape e escaped =>
    have noControl : NoControl [e] := by
      unfold escaped? at escaped
      split at escaped
      all_goals first | decide | cases escaped
    exact (by decide : NoControl ['\\']).append noControl
  | unit control =>
    have high := NoControl.digitChar ⟨c.toNat / 16, by omega⟩
    have low := NoControl.digitChar ⟨c.toNat % 16, by omega⟩
    exact (by decide : NoControl ['\\', 'u', '0', '0']).append (high.append low)
  | raw noControl =>
    intro d member
    rwa [List.mem_singleton.mp member]

theorem Literal.noControl_text (s : Option String) : NoControl (text s) := by
  have body : NoControl (body s) := by
    cases s with
    | none => decide
    | some s => exact .flatMap fun c => noControl_of_writes (charText_writes c)
  rw [text_eq_body]
  exact (by decide : NoControl ['"']).append (body.append (by decide))

theorem Number.noControl_text (n : Number) : NoControl n.text := by
  intro c member control
  have kind := n.spelled_text.isNumberChar c member
  simp only [isNumberChar, Bool.or_eq_true, beq_iff_eq, or_assoc] at kind
  rcases kind with isDigit | rfl | rfl | rfl | rfl | rfl
  · have digit : NoControl [c] := .digits (by simpa using isDigit)
    exact digit c List.mem_cons_self control
  all_goals exact absurd control (by decide)

theorem Token.noControl_text (t : Token) : NoControl t.text := by
  cases t with
  | bool b => cases b <;> decide
  | number n => exact n.noControl_text
  | string s => exact Literal.noControl_text s
  | _ => decide

theorem noControl_compact (j : Json) : NoControl j.compact.toList := by
  rw [compact, String.toList_ofList]
  exact .flatMap Token.noControl_text

/-! ## One value after another -/

namespace Builder

/-- The values that tokens write one after another, each given out as soon as it is complete. -/
def collect : Builder → List Token → Option (List Json)
  | value [], [] => some []
  | _, [] => none
  | builder, t :: ts =>
    match builder.step t with
    | none => none
    | some (complete v []) => ((value []).collect ts).map (v :: ·)
    | some next => next.collect ts

theorem collect_of_complete {builder : Builder} {t : Token} {v : Json}
    (step : builder.step t = some (complete v [])) (ts : List Token) :
    builder.collect (t :: ts) = ((value []).collect ts).map (v :: ·) := by
  rw [collect, step]

theorem collect_of_step {builder next : Builder} {t u : Token} (step : builder.step t = some next)
    (goesOn : (next.step u).isSome) (ts : List Token) :
    builder.collect (t :: ts) = next.collect ts := by
  rw [collect, step]
  split
  next same => cases same
  next v same =>
    -- Nothing follows a value that is complete with nothing open around it.
    cases same
    cases goesOn
  next same => cases same; rfl

/-- A value is given out at its last token, and no sooner. -/
theorem collect_of_after {builder : Builder} {t : Token} {ts : List Token} {v : Json}
    (built : builder.after (t :: ts) = some (complete v [])) (us : List Token) :
    builder.collect (t :: ts ++ us) = ((value []).collect us).map (v :: ·) := by
  induction ts generalizing builder t with
  | nil =>
    rw [after] at built
    cases step : builder.step t with
    | none => simp [step] at built
    | some next =>
      rw [step] at built
      cases built
      exact collect_of_complete step us
  | cons u ts ih =>
    rw [after] at built
    cases step : builder.step t with
    | none => simp [step] at built
    | some next =>
      rw [step] at built
      have goesOn : (next.step u).isSome := by
        simp only [after] at built
        cases further : next.step u with
        | none => simp [further] at built
        | some _ => rfl
      rw [List.cons_append, collect_of_step step goesOn]
      exact ih built

theorem collect_tokens (j : Json) (us : List Token) :
    (value []).collect (j.tokens ++ us) = ((value []).collect us).map (j :: ·) := by
  have complete := built j [] []
  rw [List.append_nil] at complete
  cases tokens : j.tokens with
  | nil =>
    rw [tokens] at complete
    cases complete
  | cons t ts =>
    rw [tokens] at complete
    exact collect_of_after complete us

theorem collect_flatMap_tokens (js : List Json) :
    (value []).collect (js.flatMap tokens) = some js := by
  induction js with
  | nil => rfl
  | cons j js ih => rw [List.flatMap_cons, collect_tokens, ih, Option.map_some]

end Builder

/-- The values that a text writes one after another. -/
def stream? (text : String) : Option (List Json) :=
  (tokens? text.toList).bind (Builder.value []).collect

theorem stream?_of_interspersed {js : List Json} {text : String}
    (written : Interspersed (js.flatMap tokens) text.toList)
    (separated : Separated (js.flatMap tokens)) : stream? text = some js := by
  rw [stream?, tokens?_of_interspersed written separated]
  exact Builder.collect_flatMap_tokens js

/-- Has brackets around it. -/
def isBracketed : Json → Bool
  | array _ | object _ => true
  | _ => false

/-- Brackets keep a value apart from any other. -/
theorem separated_flatMap_tokens {js : List Json}
    (bracketed : ∀ j ∈ js, j.isBracketed = true) : Separated (js.flatMap tokens) := by
  have each : ∀ j ∈ js, ∀ ts, Continues ts → Continues (j.tokens ++ ts) := by
    intro j member ts continues
    refine ⟨?_, keepsApart j ts continues⟩
    have opening := bracketed j member
    cases j with
    | array items => simp [tokens, Token.isOpenEnded]
    | object members => simp [tokens, Token.isOpenEnded]
    | _ => cases opening
  have whole := Continues.flatMap each .nil
  rw [List.append_nil] at whole
  exact whole.separated

theorem interspersed_prettyLine (j : Json) : Interspersed j.tokens (prettyChars 0 j ++ ['\n']) := by
  have gap : Interspersed [] ['\n'] := .gap rfl .nil
  have line := (interspersed_pretty j 0).append gap
  rwa [List.append_nil] at line

/-- Pretty values with a line feed after each are read back, one after another. -/
theorem stream?_prettyLines {js : List Json} (bracketed : ∀ j ∈ js, j.isBracketed = true) :
    stream? (String.join (js.map fun j => j.pretty ++ "\n")) = some js := by
  apply stream?_of_interspersed _ (separated_flatMap_tokens bracketed)
  have lines : (String.join (js.map fun j => j.pretty ++ "\n")).toList
      = js.flatMap fun j => prettyChars 0 j ++ ['\n'] := by
    simp [String.toList_join, List.flatMap_map, pretty]
  rw [lines]
  exact interspersed_flatMap fun j _ => interspersed_prettyLine j

end GridRobot.Json
