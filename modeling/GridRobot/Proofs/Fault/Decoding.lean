import GridRobot.Fault
import GridRobot.Proofs.Text.Spans

/-! # Summaries are unambiguous

A summary leaves out the parts of a fault that are empty, and the parts that it shows share their
separators. A part still ends at the first separator after it, unless the part holds one itself
(`IsDelimited`); nothing comes after the message, so that may hold anything. Two faults of that kind
have one summary only if they are alike in all but their causes (`summary_unambiguous`). -/

namespace GridRobot.Fault

/-- The separators that end a key and a value do not stand in them. -/
def IsDelimitedPair (pair : String × String) : Prop :=
  Text.Free [':'] pair.1.toList ∧ Text.Free [',', '\x7d'] pair.2.toList

instance (pair : String × String) : Decidable (IsDelimitedPair pair) :=
  inferInstanceAs (Decidable (_ ∧ _))

/-- Neither the operation nor a pair of context holds a separator that would end it too early. -/
structure IsDelimited (f : Fault) : Prop where
  operation : Text.Free [' ', ','] f.operation.toList
  context : ∀ pair ∈ f.context, IsDelimitedPair pair

/-! ## The parts of a summary -/

def operationPart (operation : String) : List Char :=
  if operation = "" then [] else ' ' :: 'a' :: 't' :: ' ' :: operation.toList

/-- What comes after a value: more pairs, and the brace that closes the context. -/
def afterValue : List (String × String) → List Char
  | [] => [' ', '\x7d']
  | (key, value) :: more =>
    ',' :: ' ' :: (key.toList ++ ':' :: ' ' :: (value.toList ++ afterValue more))

def pairsPart (pair : String × String) (more : List (String × String)) : List Char :=
  pair.1.toList ++ ':' :: ' ' :: (pair.2.toList ++ afterValue more)

def contextPart : List (String × String) → List Char
  | [] => []
  | pair :: more => ',' :: " context \x7b ".toList ++ pairsPart pair more

def messagePart (message : String) : List Char :=
  if message = "" then [] else ' ' :: '=' :: '>' :: ' ' :: message.toList

theorem toList_showPairs (pair : String × String) (more : List (String × String)) :
    (", ".intercalate ((pair :: more).map showPair)).toList ++ [' ', '\x7d']
      = pairsPart pair more := by
  induction more generalizing pair with
  | nil => simp [showPair, pairsPart, afterValue]
  | cons next more ih =>
    have later := ih next
    simp only [pairsPart] at later
    simp [showPair, pairsPart, afterValue, ← later]

theorem toList_summary (f : Fault) :
    f.summary.toList
      = f.kind.name.toList ++ ' ' :: '(' :: (f.persistence.name.toList ++ ')'
          :: (operationPart f.operation ++ (contextPart f.context ++ messagePart f.message))) := by
  have operation : (if f.operation = "" then "" else " at " ++ f.operation).toList
      = operationPart f.operation := by
    rw [apply_ite String.toList, String.toList_append]
    rfl
  have context : (if f.context = [] then ""
      else ", context \x7b " ++ ", ".intercalate (f.context.map showPair) ++ " \x7d").toList
        = contextPart f.context := by
    cases f.context with
    | nil => rfl
    | cons pair more =>
      have opening : ", context \x7b ".toList = ',' :: " context \x7b ".toList := rfl
      have closing : " \x7d".toList = [' ', '\x7d'] := rfl
      simp only [contextPart, ← toList_showPairs, List.cons_ne_nil, if_false, String.toList_append,
        opening, closing, List.append_assoc]
  have message : (if f.message = "" then "" else " => " ++ f.message).toList
      = messagePart f.message := by
    rw [apply_ite String.toList, String.toList_append]
    rfl
  rw [summary, String.toList_append, String.toList_append, String.toList_append, operation, context,
    message, heading]
  simp

/-! ## Where the parts end -/

section

variable {rest left : List Char}

theorem name_unique {kind other : FaultKind}
    (same : kind.name.toList ++ ' ' :: rest = other.name.toList ++ ' ' :: left) :
    kind = other ∧ rest = left := by
  have noSpace : ∀ kind : FaultKind, Text.Free [' '] kind.name.toList := by
    intro kind
    cases kind <;> decide
  obtain ⟨names, rests⟩ := Text.before_unique (noSpace kind) (noSpace other) same
  refine ⟨?_, rests⟩
  cases kind <;> cases other <;> first | rfl | exact absurd names (by decide)

/-- What comes after the operation in a summary, by its first characters. -/
inductive Follows : List Char → Prop where
  | nothing : Follows []
  | context (rest : List Char) : Follows (',' :: rest)
  | message (rest : List Char) : Follows (' ' :: '=' :: rest)

theorem follows_parts (context : List (String × String)) (message : String) :
    Follows (contextPart context ++ messagePart message) := by
  cases context with
  | nil =>
    rw [contextPart, List.nil_append, messagePart]
    split
    · exact .nothing
    · exact .message _
  | cons pair more =>
    rw [contextPart, List.cons_append, List.cons_append]
    exact .context _

theorem Follows.stops (follows : Follows rest) : ∀ c ∈ rest.head?, c ∈ [' ', ','] := by
  rintro c first
  cases follows with
  | nothing => cases first
  | context => cases first; decide
  | message => cases first; decide

/-- Nothing that follows an operation looks like one. -/
theorem Follows.ne_operation (follows : Follows rest) {name : List Char} :
    rest ≠ ' ' :: 'a' :: 't' :: ' ' :: name := by
  rintro rfl
  cases follows

theorem operationPart_unique {operation other : String}
    (free : Text.Free [' ', ','] operation.toList) (otherFree : Text.Free [' ', ','] other.toList)
    (follows : Follows rest) (otherFollows : Follows left)
    (same : operationPart operation ++ rest = operationPart other ++ left) :
    operation = other ∧ rest = left := by
  unfold operationPart at same
  split at same
  next unnamed =>
    split at same
    next otherUnnamed => exact ⟨unnamed.trans otherUnnamed.symm, same⟩
    next => exact absurd same follows.ne_operation
  next =>
    split at same
    next => exact absurd same.symm otherFollows.ne_operation
    next =>
      simp only [List.cons_append, List.cons.injEq, true_and] at same
      obtain ⟨names, rests⟩ :=
        Text.free_unique free otherFree follows.stops otherFollows.stops same
      exact ⟨String.toList_inj.mp names, rests⟩

theorem messagePart_inj {message other : String} (same : messagePart message = messagePart other) :
    message = other := by
  unfold messagePart at same
  split at same
  next silent =>
    split at same
    next otherSilent => exact silent.trans otherSilent.symm
    next => cases same
  next =>
    split at same
    next => cases same
    next =>
      simp only [List.cons.injEq, true_and] at same
      exact String.toList_inj.mp same

/-! ### Pairs of context -/

theorem value_unique {value other : List Char} {more others : List (String × String)}
    (free : Text.Free [',', '\x7d'] value) (otherFree : Text.Free [',', '\x7d'] other)
    (same : value ++ (afterValue more ++ rest) = other ++ (afterValue others ++ left)) :
    value = other ∧ afterValue more ++ rest = afterValue others ++ left
      ∧ (more = [] ↔ others = []) := by
  -- The last value has a space after it, so there the sign comes only after the space.
  have spaced : ∀ {value : List Char}, Text.Free [',', '\x7d'] value →
      Text.Free [',', '\x7d'] (value ++ [' ']) := by
    intro value free c member
    rcases List.mem_append.mp member with inside | last
    · exact free c inside
    · rw [List.mem_singleton.mp last]
      decide
  have comma : ',' ∈ [',', '\x7d'] := by decide
  have brace : '\x7d' ∈ [',', '\x7d'] := by decide
  cases more with
  | nil =>
    cases others with
    | nil =>
      obtain ⟨values, -, rests⟩ :=
        Text.ended_unique (spaced free) (spaced otherFree) brace brace
          (by simpa [afterValue] using same)
      exact ⟨List.append_cancel_right values, by rw [rests], Iff.rfl⟩
    | cons next others =>
      obtain ⟨-, signs, -⟩ :=
        Text.ended_unique (spaced free) otherFree brace comma (by simpa [afterValue] using same)
      exact absurd signs (by decide)
  | cons next more =>
    cases others with
    | nil =>
      obtain ⟨-, signs, -⟩ :=
        Text.ended_unique free (spaced otherFree) comma brace (by simpa [afterValue] using same)
      exact absurd signs (by decide)
    | cons otherNext others =>
      obtain ⟨values, -, rests⟩ := Text.ended_unique free otherFree comma comma same
      exact ⟨values, congrArg (',' :: ·) rests, by simp⟩

theorem firstPair_unique {pair other : String × String} {more others : List (String × String)}
    (delimited : IsDelimitedPair pair) (otherDelimited : IsDelimitedPair other)
    (same : pairsPart pair more ++ rest = pairsPart other others ++ left) :
    pair = other ∧ afterValue more ++ rest = afterValue others ++ left
      ∧ (more = [] ↔ others = []) := by
  simp only [pairsPart, List.append_assoc, List.cons_append] at same
  obtain ⟨keys, same⟩ := Text.before_unique delimited.1 otherDelimited.1 same
  obtain ⟨values, same, last⟩ :=
    value_unique delimited.2 otherDelimited.2 (List.tail_eq_of_cons_eq same)
  exact ⟨Prod.ext (String.toList_inj.mp keys) (String.toList_inj.mp values), same, last⟩

theorem pairsPart_unique {pair other : String × String} {more others : List (String × String)}
    (delimited : ∀ p ∈ pair :: more, IsDelimitedPair p)
    (otherDelimited : ∀ p ∈ other :: others, IsDelimitedPair p)
    (same : pairsPart pair more ++ rest = pairsPart other others ++ left) :
    pair :: more = other :: others ∧ rest = left := by
  induction more generalizing pair other others with
  | nil =>
    obtain ⟨first, same, last⟩ := firstPair_unique (delimited pair List.mem_cons_self)
      (otherDelimited other List.mem_cons_self) same
    obtain rfl := last.mp rfl
    exact ⟨by rw [first], List.append_cancel_left same⟩
  | cons next more ih =>
    obtain ⟨first, same, last⟩ := firstPair_unique (delimited pair List.mem_cons_self)
      (otherDelimited other List.mem_cons_self) same
    cases others with
    | nil => exact absurd (last.mpr rfl) (List.cons_ne_nil _ _)
    | cons otherNext others =>
      have deeper : pairsPart next more ++ rest = pairsPart otherNext others ++ left :=
        List.tail_eq_of_cons_eq (List.tail_eq_of_cons_eq same)
      obtain ⟨later, rests⟩ := ih (List.forall_mem_cons.mp delimited).2
        (List.forall_mem_cons.mp otherDelimited).2 deeper
      exact ⟨by rw [first, later], rests⟩

theorem contextPart_unique {context other : List (String × String)} {message otherMessage : String}
    (delimited : ∀ pair ∈ context, IsDelimitedPair pair)
    (otherDelimited : ∀ pair ∈ other, IsDelimitedPair pair)
    (same : contextPart context ++ messagePart message
      = contextPart other ++ messagePart otherMessage) :
    context = other ∧ messagePart message = messagePart otherMessage := by
  -- A message begins with a space, so it is not taken for context.
  have noComma : ∀ {message : String} {cs : List Char}, messagePart message ≠ ',' :: cs := by
    intro message cs
    unfold messagePart
    split <;> nofun
  cases context with
  | nil =>
    cases other with
    | nil => exact ⟨rfl, same⟩
    | cons pair more => exact absurd same noComma
  | cons pair more =>
    cases other with
    | nil => exact absurd same.symm noComma
    | cons otherPair others =>
      simp only [contextPart, List.cons_append, List.append_assoc] at same
      exact pairsPart_unique delimited otherDelimited
        (List.append_cancel_left (List.tail_eq_of_cons_eq same))

end

/-- **Summaries are unambiguous.** Two faults whose operations and pairs of context do not hold the
separators that end them have the same summary if and only if they agree in their kind, their
operation, their context and their message, and so in whether they may go away by themselves. All
that a summary loses is the cause. -/
theorem summary_unambiguous {f g : Fault} (delimited : f.IsDelimited)
    (otherDelimited : g.IsDelimited) :
    f.summary = g.summary
      ↔ f.kind = g.kind ∧ f.persistence = g.persistence ∧ f.operation = g.operation
        ∧ f.context = g.context ∧ f.message = g.message := by
  constructor
  · intro same
    have same := congrArg String.toList same
    rw [toList_summary, toList_summary] at same
    obtain ⟨kind, same⟩ := name_unique same
    have persistence : f.persistence = g.persistence := congrArg FaultKind.persistence kind
    rw [persistence] at same
    have same := List.tail_eq_of_cons_eq
      (List.append_cancel_left (List.tail_eq_of_cons_eq same))
    obtain ⟨operation, same⟩ := operationPart_unique delimited.operation otherDelimited.operation
      (follows_parts f.context f.message) (follows_parts g.context g.message) same
    obtain ⟨context, same⟩ := contextPart_unique delimited.context otherDelimited.context same
    exact ⟨kind, persistence, operation, context, messagePart_inj same⟩
  · rintro ⟨kind, persistence, operation, context, message⟩
    rw [← String.toList_inj, toList_summary, toList_summary, kind, persistence, operation, context,
      message]

/-- The message looks like context and a message, a key like the end of both, and one value differs
by a space at its end. -/
theorem summary_unambiguous_imitating :
    let f : Fault :=
      { kind := .ioFailed, message := ", context \x7b a: b \x7d => c", operation := "config::load"
        context := [("", ""), ("path \x7d => a, b", "c ")], cause := some .unreadable }
    let g : Fault := { f with cause := none }
    let h : Fault := { f with context := [("", ""), ("path \x7d => a, b", "c")] }
    f.IsDelimited ∧ g.IsDelimited ∧ h.IsDelimited ∧ f.summary = g.summary
      ∧ f.summary ≠ h.summary := by
  intro f g h
  have first : f.IsDelimited := ⟨by decide, by decide⟩
  have second : g.IsDelimited := ⟨first.operation, first.context⟩
  have third : h.IsDelimited := ⟨first.operation, by decide⟩
  refine ⟨first, second, third, ?_, fun same => ?_⟩
  · exact (summary_unambiguous first second).mpr ⟨rfl, rfl, rfl, rfl, rfl⟩
  · obtain ⟨-, -, -, context, -⟩ := (summary_unambiguous first third).mp same
    exact absurd context (by decide)

/-- A key with a colon in it can look like two pairs. -/
example :
    let failed : Fault := { kind := .ioFailed, message := "" }
    ({ failed with context := [("a: b, c", "d")] }).summary
      = ({ failed with context := [("a", "b"), ("c", "d")] }).summary :=
  rfl

end GridRobot.Fault
