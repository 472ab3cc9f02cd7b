import GridRobot.Proofs.Json.Framing
import GridRobot.Wire.Document

/-! # Packing a pretty text

The pretty text of a value is its compact text with blanks between the tokens. Without the spaces
and line feeds that stand in no string literal it is the compact text again (`pack_pretty`).

Where the literals are is told by a scan of its own (`Place`), which looks at quotes and backslashes
and knows of no tokens. It stays in step with both printers because a written literal has no quote
outside an escape (`packed_unquoted`) and no other token has a quote or a blank (`packed_solid`). -/

namespace GridRobot.Json

/-! ## Outside and inside of literals -/

/-- Where a character of a text stands. -/
inductive Place where
  | outside
  | inside
  /-- Right after a backslash in a literal. -/
  | escaped
  deriving DecidableEq, Repr

/-- Where the next character stands. -/
def Place.next : Place → Char → Place
  | outside, c => if c = '"' then inside else outside
  | inside, c => if c = '"' then outside else if c = '\\' then escaped else inside
  | escaped, _ => inside

/-- The characters from some place on, without the spaces and line feeds outside of literals. -/
def packed : Place → List Char → List Char
  | _, [] => []
  | place, c :: cs =>
    if place = .outside ∧ (c = ' ' ∨ c = '\n') then packed place cs
    else c :: packed (place.next c) cs

def pack (text : String) : String :=
  String.ofList (packed .outside text.toList)

/-! ## What stays -/

section

variable (rest : List Char)

theorem packed_inside (c : Char) :
    packed .inside (c :: rest) = c :: packed (Place.inside.next c) rest :=
  if_neg fun stripped => nomatch stripped.1

theorem packed_escaped (c : Char) : packed .escaped (c :: rest) = c :: packed .inside rest :=
  if_neg fun stripped => nomatch stripped.1

theorem packed_quote : packed .outside ('"' :: rest) = '"' :: packed .inside rest :=
  if_neg (by decide)

theorem packed_blank {c : Char} (blank : c = ' ' ∨ c = '\n') :
    packed .outside (c :: rest) = packed .outside rest :=
  if_pos ⟨rfl, blank⟩

/-- Neither opens a literal nor is taken out. -/
def IsSolid (c : Char) : Prop :=
  c ≠ '"' ∧ c ≠ ' ' ∧ c ≠ '\n'

theorem packed_solid {cs : List Char} (solid : ∀ c ∈ cs, IsSolid c) :
    packed .outside (cs ++ rest) = cs ++ packed .outside rest := by
  induction cs with
  | nil => rfl
  | cons c cs ih =>
    obtain ⟨noQuote, noSpace, noLineFeed⟩ := solid c List.mem_cons_self
    have stays : ¬ (Place.outside = .outside ∧ (c = ' ' ∨ c = '\n')) := by
      simp [noSpace, noLineFeed]
    rw [List.cons_append, packed, if_neg stays, Place.next, if_neg noQuote,
      ih fun d member => solid d (List.mem_cons_of_mem c member), List.cons_append]

/-- A literal stays as it is up to its last quote, blanks and escaped quotes included. -/
theorem packed_unquoted {body : List Char} (unquoted : Literal.Unquoted body) :
    packed .inside (body ++ '"' :: rest) = body ++ '"' :: packed .outside rest := by
  induction unquoted with
  | nil => rw [List.nil_append, packed_inside, Place.next, if_pos rfl, List.nil_append]
  | plain noQuote noBackslash _ ih =>
    rw [List.cons_append, packed_inside, Place.next, if_neg noQuote, if_neg noBackslash, ih,
      List.cons_append]
  | escaped e _ ih =>
    have opened : Place.inside.next '\\' = .escaped := rfl
    rw [List.cons_append, List.cons_append, packed_inside, opened, packed_escaped, ih,
      List.cons_append, List.cons_append]

theorem Number.isSolid_of_isNumberChar {c : Char} (isNumber : isNumberChar c = true) :
    IsSolid c := by
  refine ⟨?_, ?_, ?_⟩
  all_goals
    rintro rfl
    cases isNumber

theorem packed_text (t : Token) :
    packed .outside (t.text ++ rest) = t.text ++ packed .outside rest := by
  cases t with
  | openArray | closeArray | openObject | closeObject | comma | colon | null =>
    exact packed_solid rest (by simp [Token.text, IsSolid])
  | bool b =>
    cases b with
    | true => exact packed_solid rest (by simp [Token.text, IsSolid])
    | false => exact packed_solid rest (by simp [Token.text, IsSolid])
  | number n =>
    exact packed_solid rest fun c member =>
      Number.isSolid_of_isNumberChar (n.spelled_text.isNumberChar c member)
  | string s =>
    rw [Token.text, Literal.text_eq_body, List.cons_append, List.append_assoc,
      List.singleton_append, packed_quote, packed_unquoted rest (Literal.spelled_body s).unquoted,
      List.cons_append, List.append_assoc, List.singleton_append]

end

/-! ## Line feeds and no other control characters -/

/-- Of the control characters only line feeds. -/
def LineFeedsOnly (cs : List Char) : Prop :=
  ∀ c ∈ cs, c.toNat < 0x20 → c = '\n'

namespace LineFeedsOnly

theorem of_noControl {cs : List Char} (noControl : NoControl cs) : LineFeedsOnly cs :=
  fun c member control => absurd control (noControl c member)

theorem append {cs ds : List Char} (first : LineFeedsOnly cs) (second : LineFeedsOnly ds) :
    LineFeedsOnly (cs ++ ds) :=
  fun c member => (List.mem_append.mp member).elim (first c) (second c)

theorem flatMap {α : Type} {as : List α} {charsOf : α → List Char}
    (each : ∀ a ∈ as, LineFeedsOnly (charsOf a)) : LineFeedsOnly (as.flatMap charsOf) := by
  intro c member
  obtain ⟨a, among, member⟩ := List.mem_flatMap.mp member
  exact each a among c member

theorem text (t : Token) : LineFeedsOnly t.text :=
  of_noControl t.noControl_text

theorem newLine (depth : Nat) : LineFeedsOnly (newLine depth) := by
  intro c member control
  rcases List.mem_cons.mp member with rfl | blank
  · rfl
  · rw [List.eq_of_mem_replicate blank] at control
    exact absurd control (by decide)

/-- A member after the comma, or after the bracket, and the start of a line. -/
theorem member {value : List Char} (key : Option String) (written : LineFeedsOnly value) :
    LineFeedsOnly ((Token.string key).text ++ Token.colon.text ++ ' ' :: value) :=
  ((text (.string key)).append (text .colon)).append
    ((of_noControl (show NoControl [' '] by decide)).append written)

end LineFeedsOnly

theorem lineFeedsOnly_prettyChars (j : Json) (depth : Nat) :
    LineFeedsOnly (prettyChars depth j) := by
  induction j generalizing depth with
  | null => exact .text .null
  | bool b => exact .text (.bool b)
  | number n => exact .text (.number n)
  | string s => exact .text (.string s)
  | array items ih =>
    cases items with
    | nil => exact (LineFeedsOnly.text .openArray).append (.text .closeArray)
    | cons item items =>
      have opening := (LineFeedsOnly.text .openArray).append (.newLine (depth + 1))
      have first := ih item List.mem_cons_self (depth + 1)
      have later : LineFeedsOnly (prettyItems (depth + 1) items) := by
        rw [prettyItems_eq_flatMap]
        exact .flatMap fun next member => ((LineFeedsOnly.text .comma).append (.newLine _)).append
          (ih next (List.mem_cons_of_mem item member) (depth + 1))
      rw [prettyChars]
      exact (((opening.append first).append later).append (.newLine depth)).append
        (.text .closeArray)
  | object members ih =>
    cases members with
    | nil => exact (LineFeedsOnly.text .openObject).append (.text .closeObject)
    | cons member members =>
      have opening := (LineFeedsOnly.text .openObject).append (.newLine (depth + 1))
      have first := LineFeedsOnly.member member.1 (ih member List.mem_cons_self (depth + 1))
      have later : LineFeedsOnly (prettyMembers (depth + 1) members) := by
        rw [prettyMembers_eq_flatMap]
        refine .flatMap fun next among => ?_
        have written := LineFeedsOnly.member next.1
          (ih next (List.mem_cons_of_mem member among) (depth + 1))
        simpa using ((LineFeedsOnly.text .comma).append (.newLine (depth + 1))).append written
      have whole := (((opening.append first).append later).append (.newLine depth)).append
        (.text .closeObject)
      rw [prettyChars]
      simpa using whole

/-! ## What is left of the pretty text -/

theorem packed_of_interspersed {ts : List Token} {cs : List Char} (written : Interspersed ts cs)
    (lineFeeds : LineFeedsOnly cs) : packed .outside cs = ts.flatMap Token.text := by
  induction written with
  | nil => rfl
  | @gap ts c cs isGap _ ih =>
    -- Of the four gaps, tabs and carriage returns are left out by `lineFeeds`.
    have blank : c = ' ' ∨ c = '\n' := by
      simp only [Json.isGap, Bool.or_eq_true, beq_iff_eq, or_assoc] at isGap
      rcases isGap with rfl | rfl | rfl | rfl
      · exact .inl rfl
      · exact .inr (lineFeeds '\t' List.mem_cons_self (by decide))
      · exact .inr rfl
      · exact .inr (lineFeeds '\r' List.mem_cons_self (by decide))
    rw [packed_blank cs blank, ih fun d member => lineFeeds d (List.mem_cons_of_mem c member)]
  | @token ts cs t _ ih =>
    rw [packed_text, ih fun d member => lineFeeds d (List.mem_append_right t.text member),
      List.flatMap_cons]

theorem pack_pretty (j : Json) : pack j.pretty = j.compact := by
  rw [pack, pretty, String.toList_ofList,
    packed_of_interspersed (interspersed_pretty j 0) (lineFeedsOnly_prettyChars j 0), compact]

end GridRobot.Json

namespace GridRobot

/-- **Two texts of one run.** The pretty text is the compact one with spaces and line feeds between
its tokens, and these are the only characters in it that the compact text may not hold as well. -/
theorem Run.pretty_packed (run : Run) :
    Json.pack (Document.pretty run) = Document.compact run
      ∧ (∀ c ∈ (Document.pretty run).toList, c.toNat < 0x20 → c = '\n')
      ∧ ∀ c ∈ (Document.compact run).toList, ¬ c.toNat < 0x20 := by
  refine ⟨Json.pack_pretty run.toJson, ?_, Json.noControl_compact run.toJson⟩
  have lineFeeds := Json.lineFeedsOnly_prettyChars run.toJson 0
  rwa [← String.toList_ofList (l := Json.prettyChars 0 run.toJson)] at lineFeeds

/-- Blanks and escaped quotes within literals stay. -/
example : Json.pack "\x7b\n  \"a \\\" b\": [\n    \"\\\\\", 1\n  ]\n\x7d"
    = "\x7b\"a \\\" b\":[\"\\\\\",1]\x7d" := by
  decide

end GridRobot
