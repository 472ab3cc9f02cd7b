import GridRobot.Fault
import Mathlib

/-! # What is added to a fault

A fault is made of a kind and a message, and on its way up it is told which operations it passes,
pairs of context, and a cause (`Fault.addAll`). Nothing that it is told is lost (`additions_kept`):
a name that makes room for another goes into the context, and the context holds those names and the
pairs, each once and in the order in which they came. -/

namespace GridRobot.Fault

/-! ## Additions -/

/-- One thing that a fault is told. -/
inductive Addition where
  | operation (name : String)
  | pair (key value : String)
  | cause (cause : Cause)

def add (f : Fault) : Addition → Fault
  | .operation name => f.during name
  | .pair key value => f.noting key value
  | .cause c => f.causedBy c

def addAll (f : Fault) (additions : List Addition) : Fault :=
  additions.foldl add f

/-- A pair of context, by where it comes from: the name of an operation that another took the place
of, or a pair that the fault was told. -/
inductive Entry where
  | called (name : String)
  | told (key value : String)

namespace Entry

def pair : Entry → String × String
  | called name => ("called", name)
  | told key value => (key, value)

def called? : Entry → Option String
  | called name => some name
  | _ => none

end Entry

namespace Addition

def name? : Addition → Option String
  | operation name => some name
  | _ => none

def cause? : Addition → Option Cause
  | cause c => some c
  | _ => none

/-- The operations told of, also those without a name. -/
def names (additions : List Addition) : List String :=
  additions.filterMap name?

def causes (additions : List Addition) : List Cause :=
  additions.filterMap cause?

/-- The operation told of last. It has no name if there is none. -/
def lastName (additions : List Addition) : String :=
  (names additions).getLast?.getD ""

/-- What an addition notes in the context, after an operation of the name `replaced`. -/
def noted? (replaced : String) : Addition → Option Entry
  | operation _ => if replaced = "" then none else some (.called replaced)
  | pair key value => some (.told key value)
  | cause _ => none

/-- What additions note in the context, each of them after those that come before it. -/
def entries (additions : List Addition) : List Entry :=
  additions.zipIdx.filterMap fun (addition, index) =>
    addition.noted? (lastName (additions.take index))

/-! ## One more addition -/

variable (additions : List Addition) (addition : Addition)

theorem names_concat :
    names (additions ++ [addition]) = names additions ++ addition.name?.toList := by
  rw [names, List.filterMap_append, ← names]
  cases addition <;> rfl

theorem causes_concat :
    causes (additions ++ [addition]) = causes additions ++ addition.cause?.toList := by
  rw [causes, List.filterMap_append, ← causes]
  cases addition <;> rfl

theorem lastName_concat :
    lastName (additions ++ [addition]) = addition.name?.getD (lastName additions) := by
  rw [lastName, names_concat]
  cases addition <;> simp [name?, lastName]

theorem entries_concat :
    entries (additions ++ [addition])
      = entries additions ++ (addition.noted? (lastName additions)).toList := by
  -- An addition looks back only, so one more at the end changes no entry that is there.
  have earlier : (additions.zipIdx.filterMap fun (a, index) =>
      a.noted? (lastName ((additions ++ [addition]).take index))) = entries additions := by
    refine List.filterMap_congr ?_
    rintro ⟨a, index⟩ member
    have within : index < additions.length := by
      simpa using List.snd_lt_add_of_mem_zipIdx member
    simp only [List.take_append_of_le_length within.le]
  have last : (additions ++ [addition]).take (0 + additions.length) = additions := by
    rw [Nat.zero_add, List.take_left]
  rw [entries, List.zipIdx_append, List.filterMap_append, earlier]
  simp only [List.zipIdx_singleton, List.filterMap_cons, List.filterMap_nil, last]
  cases addition.noted? (lastName additions) <;> rfl

/-- Names give way to one another, so those in the context and the one that stands are all that
were told. -/
theorem called_entries :
    (entries additions).filterMap Entry.called? ++ [lastName additions].filter (· ≠ "")
      = (names additions).filter (· ≠ "") := by
  induction additions using List.reverseRecOn with
  | nil => rfl
  | append_singleton additions addition ih =>
    rw [entries_concat, lastName_concat, names_concat, List.filterMap_append, List.filter_append,
      ← ih]
    cases addition with
    | operation name =>
      -- The name that stood is an entry now, unless it is empty: then it never counted.
      by_cases unnamed : lastName additions = ""
      · simp [noted?, name?, unnamed]
      · simp [noted?, name?, Entry.called?, unnamed]
    | pair key value => simp [noted?, name?, Entry.called?]
    | cause c => simp [noted?, name?]

end Addition

/-! ## Faults -/

section

variable (f : Fault) (additions : List Addition)

theorem addAll_concat (addition : Addition) :
    f.addAll (additions ++ [addition]) = (f.addAll additions).add addition :=
  List.foldl_concat add f addition additions

/-- What no addition changes, all of them leave as it is. -/
theorem addAll_unchanged {α : Type} (field : Fault → α)
    (keeps : ∀ f addition, field (add f addition) = field f) :
    field (f.addAll additions) = field f := by
  induction additions using List.reverseRecOn with
  | nil => rfl
  | append_singleton additions addition ih => rw [addAll_concat, keeps, ih]

theorem addAll_kind : (f.addAll additions).kind = f.kind :=
  addAll_unchanged f additions kind fun _ addition => by cases addition <;> rfl

theorem addAll_message : (f.addAll additions).message = f.message :=
  addAll_unchanged f additions message fun _ addition => by cases addition <;> rfl

variable {f}

theorem addAll_operation (unnamed : f.operation = "") :
    (f.addAll additions).operation = Addition.lastName additions := by
  induction additions using List.reverseRecOn with
  | nil => exact unnamed
  | append_singleton additions addition ih =>
    rw [addAll_concat, Addition.lastName_concat]
    cases addition with
    | operation name => rfl
    | pair key value => exact ih
    | cause c => exact ih

theorem addAll_context (unnamed : f.operation = "") (bare : f.context = []) :
    (f.addAll additions).context = (Addition.entries additions).map Entry.pair := by
  induction additions using List.reverseRecOn with
  | nil => exact bare
  | append_singleton additions addition ih =>
    rw [addAll_concat, Addition.entries_concat, List.map_append, ← ih]
    cases addition with
    | operation name =>
      simp only [add, during, addAll_operation additions unnamed, Addition.noted?]
      split <;> simp [Entry.pair]
    | pair key value => rfl
    | cause c => exact (List.append_nil _).symm

theorem addAll_cause (unexplained : f.cause = none) :
    (f.addAll additions).cause = (Addition.causes additions).getLast? := by
  induction additions using List.reverseRecOn with
  | nil => exact unexplained
  | append_singleton additions addition ih =>
    rw [addAll_concat, Addition.causes_concat]
    cases addition with
    | operation name => simpa [Addition.cause?, add, during] using ih
    | pair key value => simpa [Addition.cause?, add, noting] using ih
    | cause c => simp [Addition.cause?, add, causedBy]

end

theorem persistence_eq_temporary_iff (f : Fault) :
    f.persistence = .temporary ↔ f.kind = .ioFailed := by
  rw [Fault.persistence]
  cases f.kind <;> simp [FaultKind.persistence]

/-- **Nothing is lost** of what a fault is told after it was made, in any order and with one cause
at most. Its operation is the one told of last. Its context holds the pairs that it was told and the
names that others took the place of, in the order of the additions, and nothing else; those names
and the one that stands are all that were told. Its kind, its message and its cause are those that
were given. -/
theorem additions_kept (kind : FaultKind) (message : String) (additions : List Addition)
    (once : (Addition.causes additions).length ≤ 1) :
    let fault := ({ kind, message } : Fault).addAll additions
    let names := Addition.names additions
    let entries := Addition.entries additions
    fault.operation = names.getLast?.getD ""
      ∧ fault.context = entries.map Entry.pair
      ∧ entries.filterMap Entry.called? ++ [fault.operation].filter (· ≠ "")
        = names.filter (· ≠ "")
      ∧ fault.kind = kind
      ∧ fault.message = message
      ∧ (fault.persistence = .temporary ↔ kind = .ioFailed)
      ∧ fault.cause.toList = Addition.causes additions := by
  intro fault names entries
  have operation : fault.operation = Addition.lastName additions := addAll_operation additions rfl
  have same : fault.kind = kind := addAll_kind _ additions
  refine ⟨operation, addAll_context additions rfl rfl, ?_, same, addAll_message _ additions, ?_, ?_⟩
  · rw [operation]
    exact Addition.called_entries additions
  · rw [persistence_eq_temporary_iff, same]
  · have last : fault.cause = (Addition.causes additions).getLast? := addAll_cause additions rfl
    rw [last]
    match Addition.causes additions, once with
    | [], _ => rfl
    | [cause], _ => rfl

/-- A pair has the key of replaced operations, and two operations have no name: the first is
replaced without a trace, and the second replaces one. -/
theorem additions_kept_unnamed :
    let cause := Cause.foreign "torn" ["worn"]
    let additions : List Addition :=
      [.operation "", .pair "called" "me", .operation "io", .cause cause, .operation "",
        .operation "load", .pair "path" "", .operation "script"]
    let fault := ({ kind := .ioFailed, message := "no" } : Fault).addAll additions
    (Addition.causes additions).length ≤ 1
      ∧ Addition.names additions = ["", "io", "", "load", "script"]
      ∧ fault.operation = "script"
      ∧ fault.context = [("called", "me"), ("called", "io"), ("path", ""), ("called", "load")]
      ∧ (Addition.entries additions).filterMap Entry.called? ++ [fault.operation].filter (· ≠ "")
        = ["io", "load", "script"]
      ∧ fault.cause.toList = [cause] := by
  intro cause additions fault
  have once : (Addition.causes additions).length ≤ 1 := by decide
  obtain ⟨operation, context, called, -, -, -, given⟩ :=
    additions_kept .ioFailed "no" additions once
  exact ⟨once, by decide, operation, context, called, given⟩

end GridRobot.Fault
