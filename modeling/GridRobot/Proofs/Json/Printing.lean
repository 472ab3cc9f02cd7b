import GridRobot.Json.Printer
import GridRobot.Proofs.Json.Building
import GridRobot.Proofs.Json.Scanning

/-! # Texts and the values they write

A text is read as a value if and only if it writes that value: `parse?_eq_some_iff`. So reading
undoes both ways of writing, for every value: `parse?_compact`, `parse?_pretty`. Both texts hold the
tokens of the value and nothing but gaps around them. -/

namespace GridRobot.Json

/-! ## The tokens of a value do not run together -/

/-- Tokens that may follow any other. -/
structure Continues (ts : List Token) : Prop where
  closed : ∀ t ∈ ts.head?, t.isOpenEnded = false
  separated : Separated ts

namespace Continues

theorem nil : Continues [] :=
  ⟨by simp, List.IsChain.nil⟩

theorem cons {t : Token} {ts : List Token} (closed : t.isOpenEnded = false)
    (separated : Separated ts) : Continues (t :: ts) := by
  constructor
  · simpa using closed
  · apply List.isChain_cons.mpr
    refine ⟨?_, separated⟩
    intro next _ openEnded
    rw [closed] at openEnded
    cases openEnded

theorem separated_cons {ts : List Token} (continues : Continues ts) (t : Token) :
    Separated (t :: ts) :=
  List.isChain_cons.mpr ⟨fun next first _ => continues.closed next first, continues.separated⟩

/-- Parts one after another, each of which may follow any token. -/
theorem flatMap {α : Type} {tokensOf : α → List Token} {parts : List α}
    (each : ∀ part ∈ parts, ∀ ts, Continues ts → Continues (tokensOf part ++ ts))
    {ts : List Token} (continues : Continues ts) :
    Continues (parts.flatMap tokensOf ++ ts) := by
  induction parts with
  | nil => exact continues
  | cons part parts ih =>
    have later := ih fun next member => each next (List.mem_cons_of_mem part member)
    rw [List.flatMap_cons, List.append_assoc]
    exact each part List.mem_cons_self _ later

end Continues

/-- The tokens of a value keep apart, also from what may follow them. -/
def KeepsApart (j : Json) : Prop :=
  ∀ ts, Continues ts → Separated (j.tokens ++ ts)

namespace KeepsApart

theorem item {j : Json} (apart : KeepsApart j) (ts : List Token) (continues : Continues ts) :
    Continues (.comma :: j.tokens ++ ts) :=
  .cons rfl (apart ts continues)

theorem firstMember {value : Json} (apart : KeepsApart value) (key : Option String)
    {ts : List Token} (continues : Continues ts) :
    Separated (.string key :: .colon :: (value.tokens ++ ts)) := by
  have colon : Continues (.colon :: (value.tokens ++ ts)) := .cons rfl (apart ts continues)
  exact colon.separated_cons (.string key)

theorem member {value : Json} (apart : KeepsApart value) (key : Option String) (ts : List Token)
    (continues : Continues ts) :
    Continues (.comma :: .string key :: .colon :: value.tokens ++ ts) :=
  .cons rfl (apart.firstMember key continues)

end KeepsApart

theorem keepsApart (j : Json) : KeepsApart j := by
  induction j with
  | null => exact fun ts continues => continues.separated_cons _
  | bool b => exact fun ts continues => continues.separated_cons _
  | number n => exact fun ts continues => continues.separated_cons _
  | string s => exact fun ts continues => continues.separated_cons _
  -- From the end back: the closing bracket ends any token, and so does each comma before it.
  | array items ih =>
    intro ts continues
    have closing : Continues (.closeArray :: ts) := .cons rfl continues.separated
    cases items with
    | nil => exact closing.separated_cons .openArray
    | cons item items =>
      have later := Continues.flatMap
        (fun next member => (ih next (List.mem_cons_of_mem item member)).item) closing
      have first := ih item List.mem_cons_self _ later
      have opened : Continues (.openArray :: _) := .cons rfl first
      simpa [tokens, itemTokens_cons] using opened.separated
  | object members ih =>
    intro ts continues
    have closing : Continues (.closeObject :: ts) := .cons rfl continues.separated
    cases members with
    | nil => exact closing.separated_cons .openObject
    | cons member members =>
      have later := Continues.flatMap
        (fun next among => (ih next (List.mem_cons_of_mem member among)).member next.1) closing
      have first := (ih member List.mem_cons_self).firstMember member.1 later
      have opened : Continues (.openObject :: _) := .cons rfl first
      simpa [tokens, memberTokens_cons] using opened.separated

theorem separated_tokens (j : Json) : Separated j.tokens := by
  have apart := keepsApart j [] .nil
  rwa [List.append_nil] at apart

/-! ## The reader is exact -/

theorem parse?_eq_some_iff {text : String} {j : Json} :
    parse? text = some j ↔ j.IsWrittenAs text := by
  rw [IsWrittenAs, ← tokens?_eq_some_iff (separated_tokens j), parse?, Option.bind_eq_some_iff]
  simp only [ofTokens?_eq_some_iff, exists_eq_right]

/-- A text writes no two values. -/
theorem IsWrittenAs.unique {text : String} {j k : Json} (first : j.IsWrittenAs text)
    (second : k.IsWrittenAs text) : j = k :=
  Option.some.inj ((parse?_eq_some_iff.mpr first).symm.trans (parse?_eq_some_iff.mpr second))

theorem parse?_eq_none_iff {text : String} : parse? text = none ↔ ¬ WellFormed text := by
  simp only [Option.eq_none_iff_forall_ne_some, ne_eq, parse?_eq_some_iff, WellFormed, not_exists]

/-! ## Lines and indents are gaps -/

theorem interspersed_newLine (depth : Nat) : Interspersed [] (newLine depth) := by
  apply Interspersed.gaps
  intro c member
  rcases List.mem_cons.mp member with rfl | blank
  · rfl
  · rw [List.eq_of_mem_replicate blank]
    rfl

theorem interspersed_flatMap {α : Type} {tokensOf : α → List Token} {charsOf : α → List Char}
    {parts : List α} (each : ∀ part ∈ parts, Interspersed (tokensOf part) (charsOf part)) :
    Interspersed (parts.flatMap tokensOf) (parts.flatMap charsOf) := by
  induction parts with
  | nil => exact .nil
  | cons part parts ih =>
    have later := ih fun next member => each next (List.mem_cons_of_mem part member)
    rw [List.flatMap_cons, List.flatMap_cons]
    exact (each part List.mem_cons_self).append later

theorem prettyItems_eq_flatMap (depth : Nat) (items : List Json) :
    prettyItems depth items = items.flatMap fun item =>
      Token.comma.text ++ newLine depth ++ prettyChars depth item := by
  induction items with
  | nil => simp only [prettyItems, List.flatMap_nil]
  | cons item items ih => rw [prettyItems, ih, List.flatMap_cons]

theorem prettyMembers_eq_flatMap (depth : Nat) (members : List (Option String × Json)) :
    prettyMembers depth members = members.flatMap fun member =>
      Token.comma.text ++ newLine depth ++ (Token.string member.1).text ++ Token.colon.text
        ++ ' ' :: prettyChars depth member.2 := by
  induction members with
  | nil => simp only [prettyMembers, List.flatMap_nil]
  | cons member members ih =>
    rw [prettyMembers, ih, List.flatMap_cons]

theorem interspersed_prettyItem {item : Json} {depth : Nat}
    (written : Interspersed item.tokens (prettyChars depth item)) :
    Interspersed (.comma :: item.tokens)
      (Token.comma.text ++ newLine depth ++ prettyChars depth item) :=
  ((Interspersed.text .comma).append (interspersed_newLine depth)).append written

theorem interspersed_prettyMember {value : Json} {depth : Nat} (key : Option String)
    (written : Interspersed value.tokens (prettyChars depth value)) :
    Interspersed (.string key :: .colon :: value.tokens)
      ((Token.string key).text ++ Token.colon.text ++ ' ' :: prettyChars depth value) :=
  ((Interspersed.text (.string key)).append (Interspersed.text .colon)).append (.gap rfl written)

theorem interspersed_pretty (j : Json) (depth : Nat) :
    Interspersed j.tokens (prettyChars depth j) := by
  induction j generalizing depth with
  | null => exact .text .null
  | bool b => exact .text (.bool b)
  | number n => exact .text (.number n)
  | string s => exact .text (.string s)
  | array items ih =>
    cases items with
    | nil => exact (Interspersed.text .openArray).append (Interspersed.text .closeArray)
    | cons item items =>
      have opening := (Interspersed.text .openArray).append (interspersed_newLine (depth + 1))
      have first := ih item List.mem_cons_self (depth + 1)
      have later := interspersed_flatMap fun next member =>
        interspersed_prettyItem (ih next (List.mem_cons_of_mem item member) (depth + 1))
      have closing := (interspersed_newLine depth).append (Interspersed.text .closeArray)
      have whole := ((opening.append first).append later).append closing
      -- Only the brackets of the appends differ from here on.
      rw [prettyChars, prettyItems_eq_flatMap]
      simpa [tokens, itemTokens_cons] using whole
  | object members ih =>
    cases members with
    | nil => exact (Interspersed.text .openObject).append (Interspersed.text .closeObject)
    | cons member members =>
      have opening := (Interspersed.text .openObject).append (interspersed_newLine (depth + 1))
      have first := interspersed_prettyMember member.1 (ih member List.mem_cons_self (depth + 1))
      have later := interspersed_flatMap fun next among =>
        ((Interspersed.text .comma).append (interspersed_newLine (depth + 1))).append
          (interspersed_prettyMember next.1
            (ih next (List.mem_cons_of_mem member among) (depth + 1)))
      have closing := (interspersed_newLine depth).append (Interspersed.text .closeObject)
      have whole := ((opening.append first).append later).append closing
      rw [prettyChars, prettyMembers_eq_flatMap]
      simpa [tokens, memberTokens_cons] using whole

/-! ## Both texts are read back -/

theorem parse?_of_interspersed {j : Json} {cs : List Char} (written : Interspersed j.tokens cs) :
    parse? (String.ofList cs) = some j := by
  rw [parse?_eq_some_iff, IsWrittenAs, String.toList_ofList]
  exact written.spelledOut

theorem parse?_compact (j : Json) : parse? j.compact = some j :=
  parse?_of_interspersed (.texts j.tokens)

theorem parse?_pretty (j : Json) : parse? j.pretty = some j :=
  parse?_of_interspersed (interspersed_pretty j 0)

end GridRobot.Json
