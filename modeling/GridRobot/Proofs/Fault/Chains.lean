import GridRobot.Fault
import Mathlib

/-! # Chains of causes

A fault may be caused by another, that one by a third, and so on, down to texts from elsewhere
(`Fault.nesting`). Walking from each cause to its own meets every fault of the chain and then every
text, each once and in this order (`nesting_shown`). The form in one line says nothing of the chain.
The form in several lines has the whole chain in a section of its own at the end, a line for each
text. -/

namespace GridRobot

/-! ## Walking -/

namespace Cause

/-- Texts from elsewhere as a cause, if there are any. -/
def ofTexts : List String → Option Cause
  | [] => none
  | text :: deeper => some (.foreign text deeper)

/-- What a cause is itself caused by. -/
def source? : Cause → Option Cause
  | .foreign _ deeper => ofTexts deeper
  | .fault inner => inner.cause
  | .unreadable => none

/-- The text of a cause by itself. That of an unreadable document is left open. -/
def wording? : Cause → Option String
  | .foreign text _ => some text
  | .fault inner => some inner.summary
  | .unreadable => none

/-- The cause that is `n` steps down from a cause. -/
def walk : Option Cause → Nat → Option Cause
  | cause, 0 => cause
  | cause, n + 1 => walk (cause.bind source?) n

theorem walk_none (n : Nat) : walk none n = none := by
  induction n with
  | zero => rfl
  | succ n ih => exact ih

theorem walk_ofTexts (texts : List String) (n : Nat) :
    (walk (ofTexts texts) n).map wording? = texts[n]?.map some := by
  induction texts generalizing n with
  | nil => rw [ofTexts, walk_none, List.getElem?_nil]; rfl
  | cons text deeper ih =>
    cases n with
    | zero => rfl
    | succ n => exact ih n

theorem texts_ofTexts (texts : List String) :
    ((ofTexts texts).map Cause.texts).getD [] = texts := by
  cases texts with
  | nil => rfl
  | cons text deeper => rw [ofTexts, Option.map_some, Option.getD_some, Cause.texts]

end Cause

/-! ## Nesting -/

namespace Fault

/-- A fault that is caused by the first of other faults, which is caused by the next, and so on. The
innermost is caused by texts from elsewhere, if there are any. -/
def nesting (f : Fault) (texts : List String) : List Fault → Fault
  | [] => { f with cause := Cause.ofTexts texts }
  | inner :: deeper => f.causedBy (.fault (inner.nesting texts deeper))

theorem summary_nesting (f : Fault) (texts : List String) (inner : List Fault) :
    (f.nesting texts inner).summary = f.summary := by
  cases inner <;> rfl

theorem walk_nesting (f : Fault) (texts : List String) (inner : List Fault) (n : Nat) :
    (Cause.walk (f.nesting texts inner).cause n).map Cause.wording?
      = (inner.map summary ++ texts)[n]?.map some := by
  induction inner generalizing f n with
  | nil => exact Cause.walk_ofTexts texts n
  | cons g deeper ih =>
    cases n with
    | zero => exact congrArg (fun text => some (some text)) (g.summary_nesting texts deeper)
    | succ n => exact ih g n

theorem causes_eq (f : Fault) : f.causes = (f.cause.map Cause.texts).getD [] := by
  obtain ⟨_, _, _, _, _ | cause⟩ := f <;> rw [causes] <;> rfl

theorem causes_nesting (f : Fault) (texts : List String) (inner : List Fault) :
    (f.nesting texts inner).causes = inner.map summary ++ texts := by
  induction inner generalizing f with
  | nil => exact (causes_eq _).trans (Cause.texts_ofTexts texts)
  | cons g deeper ih =>
    -- `causedBy` puts the fault in as it is, so its texts are its form in one line and its causes.
    rw [causes_eq]
    change (Cause.fault (g.nesting texts deeper)).texts = _
    rw [Cause.texts, ih, summary_nesting]
    rfl

/-! ## The section on the cause -/

/-- The form in several lines ends with the section on the cause, and the rest of it knows nothing
of the cause. -/
theorem details_eq (f : Fault) :
    f.details = ({ f with cause := none } : Fault).details ++ causeSection f.cause := by
  simp only [details, causeSection, String.append_empty]
  rfl

theorem causeSection_nesting (f : Fault) (texts : List String) (inner : List Fault) :
    causeSection (f.nesting texts inner).cause
      = if inner.map summary ++ texts = [] then ""
        else "\n    Source: " ++ showChain (inner.map summary ++ texts) ++ "\n" := by
  rw [← causes_nesting f, causes_eq]
  cases inner with
  | nil => cases texts <;> rfl
  | cons g deeper => rfl

/-! ### Line by line -/

/-- A text of lines, each with a line feed at its end. -/
def unlines (lines : List String) : String :=
  String.join (lines.map (· ++ "\n"))

@[simp] theorem unlines_nil : unlines [] = "" := String.join_nil

@[simp] theorem unlines_cons (line : String) (lines : List String) :
    unlines (line :: lines) = line ++ "\n" ++ unlines lines :=
  String.join_cons

theorem unlines_append (first second : List String) :
    unlines (first ++ second) = unlines first ++ unlines second := by
  rw [unlines, List.map_append, String.join_append, unlines, unlines]

theorem intercalate_append_newline {lines : List String} (nonempty : lines ≠ []) :
    "\n".intercalate lines ++ "\n" = unlines lines := by
  induction lines with
  | nil => exact absurd rfl nonempty
  | cons line rest ih =>
    cases rest with
    | nil => simp
    | cons next rest =>
      rw [String.intercalate_cons_cons, String.append_assoc, ih (List.cons_ne_nil _ _),
        unlines_cons line]

/-- A number with blanks before it that fill it up to five characters. -/
def numeral (n : Nat) : String :=
  String.ofList (n.repr.toList.leftpad 5 ' ')

/-- The lines on the texts below the first one: a single one has no number. -/
def deeperLines : List String → List String
  | [] => []
  | [only] => ["", "Caused by:", "    " ++ only]
  | first :: second :: rest =>
    ["", "Caused by:"]
      ++ (first :: second :: rest).zipIdx.map fun (text, index) => numeral index ++ ": " ++ text

/-- The lines of the section on the cause, for texts that have one line each. -/
def sourceLines : List String → List String
  | [] => []
  | text :: deeper => ["", "    Source: " ++ text] ++ deeperLines deeper

theorem indentLater_of_oneLine (later : String) {text : String} (oneLine : '\n' ∉ text.toList) :
    indentLater later text = text := by
  have kept : (text.toList.flatMap fun c => if c = '\n' then '\n' :: later.toList else [c])
      = text.toList.flatMap fun c => [c] := by
    refine List.flatMap_congr ?_
    intro c member
    rw [if_neg]
    rintro rfl
    exact oneLine member
  rw [indentLater, kept, List.flatMap_singleton', String.ofList_toList]

theorem showNumbered_of_oneLine (n : Nat) {text : String} (oneLine : '\n' ∉ text.toList) :
    showNumbered n text = numeral n ++ ": " ++ text := by
  rw [showNumbered, indentLater_of_oneLine _ oneLine, numeral, List.leftpad, String.ofList_append,
    String.ofList_toList, String.length_toList]

theorem showChain_of_oneLine (text : String) {deeper : List String}
    (oneLine : ∀ t ∈ deeper, '\n' ∉ t.toList) :
    showChain (text :: deeper) ++ "\n" = text ++ "\n" ++ unlines (deeperLines deeper) := by
  -- The chain is written in three ways, as the lines are: nothing below, one text, or several.
  match deeper with
  | [] => rw [showChain, deeperLines, unlines_nil, String.append_empty]
  | [only] =>
    have opening : "\n\nCaused by:\n    "
        = "\n" ++ ("" ++ "\n" ++ ("Caused by:" ++ "\n" ++ "    ")) := rfl
    rw [showChain, indentLater_of_oneLine _ (oneLine only List.mem_cons_self), deeperLines, opening]
    simp only [unlines_cons, unlines_nil, String.append_assoc, String.append_empty]
  | first :: second :: rest =>
    have opening : "\n\nCaused by:\n" = "\n" ++ unlines ["", "Caused by:"] := rfl
    have shown : showChain (text :: first :: second :: rest)
        = text ++ "\n\nCaused by:\n"
          ++ "\n".intercalate
            ((first :: second :: rest).zipIdx.map fun (t, n) => showNumbered n t) := rfl
    have numbered : ((first :: second :: rest).zipIdx.map fun (t, n) => showNumbered n t)
        = (first :: second :: rest).zipIdx.map fun (t, n) => numeral n ++ ": " ++ t := by
      refine List.map_congr_left ?_
      rintro ⟨t, n⟩ member
      exact showNumbered_of_oneLine n (oneLine t (List.fst_mem_of_mem_zipIdx member))
    have several : ((first :: second :: rest).zipIdx.map fun (t, n) => numeral n ++ ": " ++ t)
        ≠ [] := by
      simp
    rw [shown, numbered, opening, deeperLines, unlines_append,
      ← intercalate_append_newline several]
    simp only [String.append_assoc]

theorem section_of_oneLine {chain : List String} (oneLine : ∀ text ∈ chain, '\n' ∉ text.toList) :
    (if chain = [] then "" else "\n    Source: " ++ showChain chain ++ "\n")
      = unlines (sourceLines chain) := by
  cases chain with
  | nil => rfl
  | cons text deeper =>
    have opening : "\n    Source: " = "" ++ "\n" ++ "    Source: " := rfl
    rw [if_neg (List.cons_ne_nil _ _), String.append_assoc,
      showChain_of_oneLine text (List.forall_mem_cons.mp oneLine).2, sourceLines, unlines_append,
      opening]
    simp only [unlines_cons, unlines_nil, String.append_assoc, String.append_empty]

/-- **The whole chain is shown.** Walking down from a fault meets the faults nested in it and then
the texts that they end in, and no more. The form in one line is the same whatever the cause. The
form in several lines is that of the fault without its cause and, if there is one, a section on it
at the end; if the texts of the chain have one line each, the section lists them line by line. -/
theorem nesting_shown (f : Fault) (texts : List String) (inner : List Fault) :
    let fault := f.nesting texts inner
    let chain := inner.map summary ++ texts
    let alone : Fault := { fault with cause := none }
    (∀ n, (Cause.walk fault.cause n).map Cause.wording? = chain[n]?.map some)
      ∧ fault.causes = chain
      ∧ (∀ cause, ({ f with cause } : Fault).summary = f.summary)
      ∧ fault.details
        = alone.details
          ++ (if chain = [] then "" else "\n    Source: " ++ showChain chain ++ "\n")
      ∧ ((∀ text ∈ chain, '\n' ∉ text.toList) →
          fault.details = alone.details ++ unlines (sourceLines chain)) := by
  intro fault chain alone
  have details : fault.details
      = alone.details
        ++ (if chain = [] then "" else "\n    Source: " ++ showChain chain ++ "\n") := by
    rw [fault.details_eq, causeSection_nesting]
  refine ⟨f.walk_nesting texts inner, f.causes_nesting texts inner, fun _ => rfl, details, ?_⟩
  intro oneLine
  rw [details, section_of_oneLine oneLine]

/-- Two faults below the first, and two texts below those. -/
theorem nesting_shown_numbered :
    let f : Fault := { kind := .configInvalid, message := "no robot" }
    let inner : List Fault :=
      [{ kind := .ioFailed, message := "torn", operation := "io", context := [("path", "a")] },
        { kind := .fileNotFound, message := "" }]
    let fault := f.nesting ["disk full", "bad sector"] inner
    (∀ text ∈ inner.map summary ++ ["disk full", "bad sector"], '\n' ∉ text.toList)
      ∧ fault.causes
        = ["IoFailed (temporary) at io, context \x7b path: a \x7d => torn",
            "FileNotFound (permanent)", "disk full", "bad sector"]
      ∧ fault.details
        = unlines
            ["ConfigInvalid (permanent) at ", "", "    Message: no robot", "",
              "    Source: IoFailed (temporary) at io, context \x7b path: a \x7d => torn", "",
              "Caused by:", "    0: FileNotFound (permanent)", "    1: disk full",
              "    2: bad sector"] := by
  intro f inner fault
  have chain : inner.map summary ++ ["disk full", "bad sector"]
      = ["IoFailed (temporary) at io, context \x7b path: a \x7d => torn",
          "FileNotFound (permanent)", "disk full", "bad sector"] := rfl
  have oneLine : ∀ text ∈ inner.map summary ++ ["disk full", "bad sector"],
      '\n' ∉ text.toList := by
    rw [chain]
    decide
  obtain ⟨-, causes, -, -, lines⟩ := nesting_shown f ["disk full", "bad sector"] inner
  exact ⟨oneLine, causes.trans chain, (lines oneLine).trans rfl⟩

end Fault
end GridRobot
