import GridRobot.Json.Value

/-! # Values from their tokens

A value is built from its own tokens and from no others: `ofTokens?_eq_some_iff`. The builder meets
these tokens inside whatever is still open, so `Built` leaves the stack and the tokens that follow
open. Inside an array or object the parts that are done already stand on the stack, newest first,
and belong to the value that its last token completes. What a builder does next depends on what it
has come to, so all this is said of the builder that tokens lead to (`Builder.after`).

For the other direction, a builder knows at every time which tokens it has taken
(`Builder.taken`). -/

namespace GridRobot

/-- A property of all values that holds of an array or object when it holds of its parts. -/
@[elab_as_elim, induction_eliminator]
theorem Json.inductionOn {motive : Json → Prop} (null : motive .null)
    (bool : ∀ b, motive (.bool b)) (number : ∀ n, motive (.number n))
    (string : ∀ s, motive (.string s))
    (array : ∀ items, (∀ item ∈ items, motive item) → motive (.array items))
    (object : ∀ members, (∀ member ∈ members, motive member.2) → motive (.object members)) :
    ∀ j, motive j
  | .null => null
  | .bool b => bool b
  | .number n => number n
  | .string s => string s
  | .array items => array items fun item _ =>
    Json.inductionOn null bool number string array object item
  | .object members => object members fun member _ =>
    Json.inductionOn null bool number string array object member.2
termination_by j => sizeOf j
decreasing_by
  · have smaller := List.sizeOf_lt_of_mem ‹item ∈ items›
    simp only [Json.array.sizeOf_spec]
    omega
  · have smaller := List.sizeOf_lt_of_mem ‹member ∈ members›
    obtain ⟨key, value⟩ := member
    simp only [Json.object.sizeOf_spec, Prod.mk.sizeOf_spec] at smaller ⊢
    omega

namespace Json

/-! ## Commas -/

theorem itemTokens_cons (item : Json) (items : List Json) :
    itemTokens (item :: items)
      = item.tokens ++ items.flatMap fun later => .comma :: later.tokens := by
  induction items generalizing item with
  | nil => simp [itemTokens]
  | cons next items ih =>
    rw [itemTokens, ih, List.flatMap_cons]
    · simp
    · exact List.cons_ne_nil next items

theorem memberTokens_cons (member : Option String × Json) (members : List (Option String × Json)) :
    memberTokens (member :: members)
      = .string member.1 :: .colon :: (member.2.tokens ++ members.flatMap fun later =>
          .comma :: .string later.1 :: .colon :: later.2.tokens) := by
  induction members generalizing member with
  | nil => simp [memberTokens]
  | cons next members ih =>
    rw [memberTokens, ih, List.flatMap_cons]
    · simp
    · exact List.cons_ne_nil next members

namespace Builder

/-- The builder that tokens lead to. -/
def after : Builder → List Token → Option Builder
  | builder, [] => some builder
  | builder, t :: ts =>
    match builder.step t with
    | none => none
    | some next => next.after ts

theorem run_eq_after (builder : Builder) (ts : List Token) :
    builder.run ts = (builder.after ts).bind finish := by
  induction ts generalizing builder with
  | nil => rfl
  | cons t ts ih =>
    rw [run, after]
    cases builder.step t with
    | none => rfl
    | some next => exact ih next

def Built (j : Json) : Prop :=
  ∀ stack ts, (value stack).after (j.tokens ++ ts) = (complete j stack).after ts

/-! ## Arrays -/

/-- No value begins with the end of an array, so the first item is built like any other. -/
theorem after_firstItem (item : Json) (stack : List Frame) (ts : List Token) :
    (firstItem stack).after (item.tokens ++ ts)
      = (value (.array [] :: stack)).after (item.tokens ++ ts) := by
  cases item <;> simp [tokens, after, step]

theorem after_laterItems {items : List Json} (built : ∀ item ∈ items, Built item) (last : Json)
    (done : List Json) (stack : List Frame) (ts : List Token) :
    (complete last (.array done :: stack)).after
        ((items.flatMap fun item => .comma :: item.tokens) ++ .closeArray :: ts)
      = (complete (.array (done.reverse ++ last :: items)) stack).after ts := by
  induction items generalizing last done with
  | nil => simp [after, step, continueFrame]
  | cons item items ih =>
    have builtItem := built item List.mem_cons_self
    have builtLater := fun later member => built later (List.mem_cons_of_mem item member)
    -- The comma moves `last` to the items that are done, and `item` becomes the last one.
    simp only [List.flatMap_cons, List.cons_append, List.append_assoc, after, step, continueFrame]
    rw [builtItem, ih builtLater]
    simp

theorem built_array {items : List Json} (built : ∀ item ∈ items, Built item) :
    Built (.array items) := by
  intro stack ts
  simp only [tokens, List.cons_append, List.append_assoc, List.nil_append]
  rw [after]
  simp only [step, startValue]
  cases items with
  | nil => simp only [itemTokens, List.nil_append, after, step]
  | cons item items =>
    have builtItem := built item List.mem_cons_self
    have builtLater := fun later member => built later (List.mem_cons_of_mem item member)
    rw [itemTokens_cons, List.append_assoc, after_firstItem, builtItem,
      after_laterItems builtLater]
    simp

/-! ## Objects -/

theorem after_firstKey (key : Option String) (stack : List Frame) (ts : List Token) :
    (firstKey stack).after (.string key :: .colon :: ts)
      = (value (.object [] key :: stack)).after ts := by
  simp only [after, step]

theorem after_laterMembers {members : List (Option String × Json)}
    (built : ∀ member ∈ members, Built member.2) (key : Option String) (last : Json)
    (done : List (Option String × Json)) (stack : List Frame) (ts : List Token) :
    (complete last (.object done key :: stack)).after
        ((members.flatMap fun member => .comma :: .string member.1 :: .colon :: member.2.tokens)
          ++ .closeObject :: ts)
      = (complete (.object (done.reverse ++ (key, last) :: members)) stack).after ts := by
  induction members generalizing key last done with
  | nil => simp [after, step, continueFrame]
  | cons member members ih =>
    have builtMember := built member List.mem_cons_self
    have builtLater := fun later among => built later (List.mem_cons_of_mem member among)
    simp only [List.flatMap_cons, List.cons_append, List.append_assoc, after, step, continueFrame]
    rw [builtMember, ih builtLater]
    simp

theorem built_object {members : List (Option String × Json)}
    (built : ∀ member ∈ members, Built member.2) : Built (.object members) := by
  intro stack ts
  simp only [tokens, List.cons_append, List.append_assoc, List.nil_append]
  rw [after]
  simp only [step, startValue]
  cases members with
  | nil => simp only [memberTokens, List.nil_append, after, step]
  | cons member members =>
    have builtMember := built member List.mem_cons_self
    have builtLater := fun later among => built later (List.mem_cons_of_mem member among)
    simp only [memberTokens_cons, List.cons_append, List.append_assoc]
    rw [after_firstKey, builtMember, after_laterMembers builtLater]
    simp

/-! ## Any value -/

theorem built (j : Json) : Built j := by
  induction j with
  | null => intro stack ts; rfl
  | bool b => intro stack ts; rfl
  | number n => intro stack ts; rfl
  | string s => intro stack ts; rfl
  | array items ih => exact built_array ih
  | object members ih => exact built_object ih

end Builder

theorem ofTokens?_tokens (j : Json) : ofTokens? j.tokens = some j := by
  have complete := Builder.built j [] []
  rw [List.append_nil] at complete
  rw [ofTokens?, Builder.run_eq_after, complete]
  rfl

/-! ## No other tokens -/

theorem itemTokens_concat (items : List Json) (last : Json) :
    itemTokens (items ++ [last])
      = (items.flatMap fun item => item.tokens ++ [.comma]) ++ last.tokens := by
  induction items with
  | nil => rfl
  | cons item items ih =>
    rw [List.cons_append, itemTokens, ih]
    · simp
    · exact List.append_ne_nil_of_right_ne_nil items (List.cons_ne_nil last [])

theorem memberTokens_concat (members : List (Option String × Json)) (key : Option String)
    (last : Json) :
    memberTokens (members ++ [(key, last)])
      = (members.flatMap fun member => .string member.1 :: .colon :: (member.2.tokens ++ [.comma]))
        ++ .string key :: .colon :: last.tokens := by
  induction members with
  | nil => rfl
  | cons member members ih =>
    rw [List.cons_append, memberTokens, ih]
    · simp
    · exact List.append_ne_nil_of_right_ne_nil members (List.cons_ne_nil (key, last) [])

/-- The tokens of members with a comma after each. -/
def membersTaken (members : List (Option String × Json)) : List Token :=
  .openObject :: members.reverse.flatMap fun member =>
    .string member.1 :: .colon :: (member.2.tokens ++ [.comma])

namespace Builder

/-- The tokens of what is still open, the outermost first. -/
def stackTaken : List Frame → List Token
  | [] => []
  | .array items :: stack =>
    stackTaken stack
      ++ .openArray :: items.reverse.flatMap fun item => item.tokens ++ [.comma]
  | .object members k :: stack =>
    stackTaken stack ++ (membersTaken members ++ [.string k, .colon])

/-- The tokens that have led to a builder. -/
def taken : Builder → List Token
  | value stack => stackTaken stack
  | firstItem stack => stackTaken stack ++ [.openArray]
  | firstKey stack => stackTaken stack ++ membersTaken []
  | key members stack => stackTaken stack ++ membersTaken members
  | colon members k stack => stackTaken stack ++ (membersTaken members ++ [.string k])
  | complete v stack => stackTaken stack ++ v.tokens

theorem taken_startValue {stack : List Frame} {t : Token} {next : Builder}
    (started : startValue stack t = some next) : next.taken = stackTaken stack ++ [t] := by
  unfold startValue at started
  split at started
  all_goals cases started
  all_goals simp [taken, membersTaken, tokens]

theorem taken_continueFrame {v : Json} {stack : List Frame} {t : Token} {next : Builder}
    (continued : continueFrame v stack t = some next) :
    next.taken = (complete v stack).taken ++ [t] := by
  unfold continueFrame at continued
  split at continued
  all_goals cases continued
  · simp [taken, stackTaken]
  · simp [taken, stackTaken, tokens, itemTokens_concat]
  · simp [taken, stackTaken, membersTaken]
  · simp [taken, stackTaken, membersTaken, tokens, memberTokens_concat]

theorem taken_step {builder next : Builder} {t : Token} (step : builder.step t = some next) :
    next.taken = builder.taken ++ [t] := by
  unfold Builder.step at step
  split at step
  next => exact taken_startValue step
  next => cases step; simp [taken, tokens, itemTokens]
  next => rw [taken_startValue step]; simp [taken, stackTaken]
  next => cases step; simp [taken, membersTaken, tokens, memberTokens]
  next => cases step; simp [taken]
  next => cases step; simp [taken]
  next => cases step; simp [taken, stackTaken]
  next => exact taken_continueFrame step
  next => cases step

theorem taken_run {builder : Builder} {ts : List Token} {j : Json}
    (built : builder.run ts = some j) : builder.taken ++ ts = j.tokens := by
  induction ts generalizing builder with
  | nil =>
    rw [run] at built
    unfold finish at built
    split at built
    next => cases built; simp [taken, stackTaken]
    next => cases built
  | cons t ts ih =>
    rw [run] at built
    split at built
    next => cases built
    next next step =>
      -- The step only moves `t` from the tokens to come to those taken.
      rw [← ih built, taken_step step]
      simp

end Builder

theorem ofTokens?_eq_some_iff {ts : List Token} {j : Json} :
    ofTokens? ts = some j ↔ ts = j.tokens := by
  constructor
  · exact fun built => Builder.taken_run built
  · rintro rfl
    exact ofTokens?_tokens j

end Json
end GridRobot
