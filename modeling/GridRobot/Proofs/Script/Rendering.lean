import GridRobot.Proofs.Script.Pieces
import Mathlib.Data.List.Sort

/-! # Sources of effective lines

A list of effective lines can be written out in many ways: each line may have blanks and a comment
added, lines without effect may stand between, and the lines end in one of two ways. A `Layout` is
one choice of all this. Whatever the choice, the list is read back (`effectiveLines_render`). -/

namespace GridRobot.Script

open Text

/-! ## Layouts -/

/-- What stands on a line beside its text, and how the line ends if it does. -/
structure Decoration where
  before : List Char := []
  after : List Char := []
  comment : Option (List Char) := none
  hasReturn : Bool := false
  blankBefore : Blank before := by decide
  blankAfter : Blank after := by decide
  oneLine : '\n' ∉ before ++ after ++ comment.getD [] := by decide

namespace Decoration

def commentText (d : Decoration) : List Char :=
  d.comment.elim [] ('#' :: ·)

/-- The carriage return before the line feed, if there is one. -/
def carriageReturn (d : Decoration) : List Char :=
  if d.hasReturn then ['\r'] else []

def line (d : Decoration) (text : List Char) : List Char :=
  d.before ++ text ++ d.after ++ d.commentText

end Decoration

/-- The lines of a source, without their texts. -/
structure Layout where
  ended : List Decoration
  /-- The last line, if it has no end. -/
  unended : Option Decoration := none

/-- The text of the line with a number; nothing if the line has no effect. -/
def textAt (lines : List (Nat × String)) (number : Nat) : List Char :=
  ((lines.lookup number).getD "").toList

namespace Layout

/-- How many lines there are. -/
def height (layout : Layout) : Nat :=
  layout.ended.length + layout.unended.toList.length

variable (layout : Layout) (lines : List (Nat × String))

/-- Has a line for each number. -/
def Covers : Prop :=
  ∀ line ∈ lines, line.1 ≤ layout.height

/-- The lines that end, up to their line feeds. -/
def endedLines : List (List Char) :=
  (layout.ended.zipIdx 1).map fun (d, number) => d.line (textAt lines number) ++ d.carriageReturn

/-- What comes after the last line feed. -/
def lastLine : List Char :=
  layout.unended.elim [] fun d => d.line (textAt lines (layout.ended.length + 1))

/-- The source with these lines that has the texts at their numbers. -/
def render : String :=
  String.ofList ((layout.endedLines lines).flatMap (· ++ ['\n']) ++ layout.lastLine lines)

end Layout

/-- Could be what is read of a source. -/
structure IsScript (lines : List (Nat × String)) : Prop where
  increasing : lines.Pairwise fun line later => line.1 < later.1
  numbered : ∀ line ∈ lines, 1 ≤ line.1
  bare : ∀ line ∈ lines, IsBare line.2

theorem isScript_effectiveLines (source : String) : IsScript (effectiveLines source) where
  increasing := effectiveLines_increasing source
  numbered _ member := (isBare_of_mem_effectiveLines member).1
  bare _ member := (isBare_of_mem_effectiveLines member).2

/-! ## A list by its texts -/

theorem lookup_of_mem {lines : List (Nat × String)}
    (increasing : lines.Pairwise fun line later => line.1 < later.1) {number : Nat} {text : String}
    (member : (number, text) ∈ lines) : lines.lookup number = some text := by
  induction lines with
  | nil => cases member
  | cons line lines ih =>
    obtain ⟨less, later⟩ := List.pairwise_cons.mp increasing
    rcases List.mem_cons.mp member with rfl | among
    · exact List.lookup_cons_self
    · have different : (number == line.1) = false := by
        have ahead := less _ among
        simp only at ahead
        simpa using Nat.ne_of_gt ahead
      rw [List.lookup_cons, different]
      exact ih later among

theorem mem_of_lookup {lines : List (Nat × String)} {number : Nat} {text : String}
    (found : lines.lookup number = some text) : (number, text) ∈ lines := by
  obtain ⟨earlier, later, rfl, -⟩ := List.lookup_eq_some_iff.mp found
  simp

theorem textAt_cases (lines : List (Nat × String)) (number : Nat) :
    textAt lines number = [] ∨ ∃ text, (number, text) ∈ lines ∧ textAt lines number = text.toList := by
  cases found : lines.lookup number with
  | none =>
    left
    rw [textAt, found]
    rfl
  | some text =>
    right
    refine ⟨text, mem_of_lookup found, ?_⟩
    rw [textAt, found]
    rfl

theorem textAt_of_forall_ne {lines : List (Nat × String)} {number : Nat}
    (absent : ∀ line ∈ lines, line.1 ≠ number) : textAt lines number = [] := by
  rcases textAt_cases lines number with nothing | ⟨text, member, -⟩
  · exact nothing
  · exact absurd rfl (absent _ member)

namespace IsScript

variable {lines : List (Nat × String)} (isScript : IsScript lines)

include isScript

theorem mem_iff {number : Nat} {text : String} :
    (number, text) ∈ lines ↔ text ≠ "" ∧ textAt lines number = text.toList := by
  constructor
  · intro member
    refine ⟨(isScript.bare _ member).nonempty, ?_⟩
    rw [textAt, lookup_of_mem isScript.increasing member]
    rfl
  · rintro ⟨nonempty, here⟩
    rw [textAt, String.toList_inj] at here
    apply mem_of_lookup
    cases found : lines.lookup number with
    | none =>
      rw [found] at here
      exact absurd here.symm nonempty
    | some other =>
      rw [found] at here
      rw [← here]
      rfl

theorem textAt_zero : textAt lines 0 = [] :=
  textAt_of_forall_ne fun line member => Nat.ne_of_gt (isScript.numbered line member)

theorem noBlankEnds_textAt (number : Nat) : NoBlankEnds (textAt lines number) := by
  rcases textAt_cases lines number with nothing | ⟨text, member, here⟩
  · rw [nothing]
    decide
  · rw [here]
    exact (isScript.bare _ member).ends

theorem not_mem_textAt (number : Nat) :
    '#' ∉ textAt lines number ∧ '\n' ∉ textAt lines number := by
  rcases textAt_cases lines number with nothing | ⟨text, member, here⟩
  · rw [nothing]
    decide
  · rw [here]
    exact ⟨(isScript.bare _ member).noComment, (isScript.bare _ member).oneLine⟩

/-- Scripts that agree on every line are the same. -/
theorem eq_of_textAt {others : List (Nat × String)} (areScript : IsScript others)
    (same : ∀ number, 1 ≤ number → textAt lines number = textAt others number) :
    lines = others := by
  have distinct {list : List (Nat × String)} (list_isScript : IsScript list) : list.Nodup :=
    list_isScript.increasing.imp fun less => by
      rintro rfl
      exact Nat.lt_irrefl _ less
  have perm : lines.Perm others := by
    rw [List.perm_ext_iff_of_nodup (distinct isScript) (distinct areScript)]
    rintro ⟨number, text⟩
    rw [isScript.mem_iff, areScript.mem_iff]
    cases number with
    | zero => rw [isScript.textAt_zero, areScript.textAt_zero]
    | succ number => rw [same _ (Nat.succ_pos number)]
  apply perm.eq_of_pairwise _ isScript.increasing areScript.increasing
  intro line other _ _ less greater
  exact absurd less (Nat.lt_asymm greater)

end IsScript

/-! ## A source by its pieces -/

theorem textAt_effectiveLines (source : String) {number : Nat} (least : 1 ≤ number) :
    textAt (effectiveLines source) number
      = ((pieces source)[number - 1]?.map strip).getD [] := by
  have isScript := isScript_effectiveLines source
  cases here : (pieces source)[number - 1]? with
  | none =>
    rcases textAt_cases _ number with nothing | ⟨text, member, -⟩
    · exact nothing
    · obtain ⟨-, -, piece, there, -⟩ := mem_effectiveLines_iff.mp member
      cases here.symm.trans there
  | some piece =>
    rw [Option.map_some, Option.getD_some]
    by_cases nothing : strip piece = []
    · rcases textAt_cases _ number with none | ⟨text, member, -⟩
      · rw [none, nothing]
      · obtain ⟨-, nonempty, other, there, leaves⟩ := mem_effectiveLines_iff.mp member
        cases here.symm.trans there
        have left := strip_eq_iff.mpr leaves
        rw [nothing] at left
        exact absurd (by simpa using left.symm) nonempty
    · have member : (number, String.ofList (strip piece)) ∈ effectiveLines source := by
        rw [mem_effectiveLines_iff]
        refine ⟨least, by simpa using nothing, piece, here, ?_⟩
        rw [String.toList_ofList]
        exact leaves_strip piece
      rw [(isScript.mem_iff.mp member).2, String.toList_ofList]

theorem intercalate_concat (parts : List (List Char)) (last : List Char) :
    ['\n'].intercalate (parts ++ [last]) = parts.flatMap (· ++ ['\n']) ++ last := by
  induction parts with
  | nil => simp
  | cons part parts ih =>
    rw [List.cons_append, List.intercalate_cons_of_ne_nil (by simp), ih, List.flatMap_cons]
    simp only [List.append_assoc]

/-! ## What is read of a layout -/

namespace Decoration

variable (d : Decoration) {text : List Char}

theorem leaves_line (ends : NoBlankEnds text) (noComment : '#' ∉ text) :
    Leaves (d.line text) text := by
  apply Leaves.intro d.blankBefore d.blankAfter ends noComment
  intro c first
  unfold commentText at first
  cases comment : d.comment with
  | none => simp [comment] at first
  | some rest => simpa [comment, eq_comm] using first

theorem strip_line (ends : NoBlankEnds text) (noComment : '#' ∉ text) :
    strip (d.line text) = text :=
  strip_eq_iff.mpr (d.leaves_line ends noComment)

theorem strip_append_carriageReturn (line : List Char) :
    strip (line ++ d.carriageReturn) = strip line := by
  unfold carriageReturn
  split
  · exact strip_concat_blank line (by decide)
  · rw [List.append_nil]

theorem newline_not_mem_line (oneLine : '\n' ∉ text) : '\n' ∉ d.line text := by
  have others := d.oneLine
  unfold line commentText
  cases comment : d.comment with
  | none => simp_all
  | some rest => simp_all

theorem newline_not_mem_carriageReturn : '\n' ∉ d.carriageReturn := by
  unfold carriageReturn
  split <;> decide

end Decoration

namespace Layout

variable (layout : Layout) {lines : List (Nat × String)} (isScript : IsScript lines)

include isScript

theorem pieces_render :
    pieces (layout.render lines) = layout.endedLines lines ++ [layout.lastLine lines] := by
  rw [pieces, render, String.toList_ofList, ← intercalate_concat]
  apply List.splitOn_intercalate
  · intro piece member
    rcases List.mem_append.mp member with ended | unended
    · obtain ⟨⟨d, number⟩, -, rfl⟩ := List.mem_map.mp ended
      rw [List.mem_append, not_or]
      exact ⟨d.newline_not_mem_line (isScript.not_mem_textAt number).2,
        d.newline_not_mem_carriageReturn⟩
    · obtain rfl := List.mem_singleton.mp unended
      unfold lastLine
      cases layout.unended with
      | none => exact List.not_mem_nil
      | some d => exact d.newline_not_mem_line (isScript.not_mem_textAt _).2
  · simp

theorem strip_lastLine (covers : layout.Covers lines) :
    strip (layout.lastLine lines) = textAt lines (layout.ended.length + 1) := by
  unfold lastLine
  cases last : layout.unended with
  | none =>
    have nothing : textAt lines (layout.ended.length + 1) = [] := by
      apply textAt_of_forall_ne
      intro line member
      have covered := covers line member
      rw [height, last, Option.toList_none, List.length_nil] at covered
      omega
    rw [nothing]
    rfl
  | some d => exact d.strip_line (isScript.noBlankEnds_textAt _) (isScript.not_mem_textAt _).1

/-- Every line leaves the text at its number. -/
theorem map_strip_pieces_render (covers : layout.Covers lines) (index : Nat) :
    ((pieces (layout.render lines))[index]?.map strip).getD []
      = textAt lines (index + 1) := by
  rw [layout.pieces_render isScript]
  have length : (layout.endedLines lines).length = layout.ended.length := by simp [endedLines]
  rcases Nat.lt_trichotomy index layout.ended.length with ended | last | beyond
  · have piece : (layout.endedLines lines)[index]?
        = some (layout.ended[index].line (textAt lines (index + 1))
            ++ layout.ended[index].carriageReturn) := by
      simp [endedLines, ended, Nat.add_comm 1 index]
    rw [List.getElem?_append_left (length ▸ ended), piece, Option.map_some, Option.getD_some,
      Decoration.strip_append_carriageReturn]
    exact Decoration.strip_line _ (isScript.noBlankEnds_textAt _) (isScript.not_mem_textAt _).1
  · rw [last, ← length, List.getElem?_concat_length, Option.map_some, Option.getD_some, length]
    exact layout.strip_lastLine isScript covers
  · have nothing : textAt lines (index + 1) = [] := by
      apply textAt_of_forall_ne
      intro line member
      have covered := covers line member
      have atMostOne : layout.unended.toList.length ≤ 1 := by
        cases layout.unended <;> simp
      rw [height] at covered
      omega
    rw [nothing, List.getElem?_eq_none]
    · rfl
    · simp [length]
      omega

theorem effectiveLines_layout (covers : layout.Covers lines) :
    effectiveLines (layout.render lines) = lines := by
  apply (isScript_effectiveLines _).eq_of_textAt isScript
  intro number least
  rw [textAt_effectiveLines _ least, layout.map_strip_pieces_render isScript covers,
    Nat.sub_add_cancel least]

end Layout

/-! ## Every source has a layout -/

theorem exists_decoration {piece : List Char} (oneLine : '\n' ∉ piece) :
    ∃ d : Decoration, d.carriageReturn = [] ∧ d.line (strip piece) = piece := by
  have leaves := leaves_strip piece
  generalize strip piece = left at leaves
  cases leaves with
  | @intro before text after comment blankBefore blankAfter ends noComment isComment =>
    cases comment with
    | nil =>
      refine ⟨{ before, after, blankBefore, blankAfter, oneLine := ?_ }, rfl, ?_⟩
      · simp_all
      · simp [Decoration.line, Decoration.commentText]
    | cons c comment =>
      obtain rfl := isComment c rfl
      refine ⟨{ before, after, comment := some comment, blankBefore, blankAfter, oneLine := ?_ },
        rfl, ?_⟩
      · simp_all
      · simp [Decoration.line, Decoration.commentText]

theorem exists_decorations {lines : List (Nat × String)} {parts : List (List Char)} (number : Nat)
    (oneLine : ∀ part ∈ parts, '\n' ∉ part)
    (texts : ∀ index part, parts[index]? = some part →
      textAt lines (number + index) = strip part) :
    ∃ ds : List Decoration, ds.length = parts.length
      ∧ ((ds.zipIdx number).map fun (d, number) => d.line (textAt lines number) ++ d.carriageReturn)
        = parts := by
  induction parts generalizing number with
  | nil => exact ⟨[], rfl, rfl⟩
  | cons part parts ih =>
    obtain ⟨d, noReturn, line⟩ := exists_decoration (oneLine part List.mem_cons_self)
    have first : textAt lines number = strip part := texts 0 part rfl
    obtain ⟨ds, length, later⟩ := ih (number + 1)
      (fun next member => oneLine next (List.mem_cons_of_mem part member))
      (fun index next here => by
        rw [Nat.add_right_comm]
        exact texts (index + 1) next here)
    refine ⟨d :: ds, by simp [length], ?_⟩
    rw [List.zipIdx_cons, List.map_cons, later]
    simp only
    rw [first, line, noReturn, List.append_nil]

theorem exists_layout (source : String) : ∃ layout : Layout,
    layout.Covers (effectiveLines source) ∧ layout.render (effectiveLines source) = source := by
  have oneLine : ∀ piece ∈ pieces source, '\n' ∉ piece :=
    fun piece => newline_not_mem_of_mem_pieces
  have texts : ∀ index piece, (pieces source)[index]? = some piece →
      textAt (effectiveLines source) (1 + index) = strip piece := by
    intro index piece here
    rw [textAt_effectiveLines source (Nat.le_add_right 1 index), Nat.add_sub_cancel_left, here]
    rfl
  have whole : ['\n'].intercalate (pieces source) = source.toList := List.intercalate_splitOn '\n'
  obtain nothing | ⟨parts, last, split⟩ := (pieces source).eq_nil_or_concat
  · exact absurd nothing (source.toList.splitOn_ne_nil '\n')
  rw [List.concat_eq_append] at split
  rw [split] at oneLine texts whole
  obtain ⟨d, -, line⟩ := exists_decoration (oneLine last (by simp))
  obtain ⟨ds, length, ended⟩ := exists_decorations 1
    (fun part member => oneLine part (List.mem_append_left _ member))
    (fun index part here => texts index part (by
      rw [List.getElem?_append_left (List.getElem?_eq_some_iff.mp here).1]
      exact here))
  have lastText := texts parts.length last (by simp)
  refine ⟨⟨ds, some d⟩, ?_, ?_⟩
  · rintro ⟨number, text⟩ member
    obtain ⟨least, -, piece, here, -⟩ := mem_effectiveLines_iff.mp member
    have inside := (List.getElem?_eq_some_iff.mp here).1
    rw [split, List.length_append, List.length_singleton] at inside
    simp only [Layout.height, Option.toList_some, List.length_singleton]
    omega
  · rw [Layout.render, Layout.endedLines, ended, Layout.lastLine]
    simp only [Option.elim_some]
    rw [length, Nat.add_comm, lastText, line, ← intercalate_concat, whole, String.ofList_toList]

/-! ## Reading undoes rendering -/

theorem exists_covers (lines : List (Nat × String)) : ∃ layout : Layout, layout.Covers lines := by
  induction lines with
  | nil => exact ⟨⟨[], none⟩, nofun⟩
  | cons line lines ih =>
    obtain ⟨layout, covers⟩ := ih
    refine ⟨⟨List.replicate (line.1 + layout.height) {}, none⟩, ?_⟩
    intro other member
    simp only [Layout.height, List.length_replicate]
    rcases List.mem_cons.mp member with rfl | among
    · omega
    · have covered := covers other among
      rw [Layout.height] at covered
      omega

/-- **Rendering.** Every list that could be what is read of a source is read of some source, namely
of any source with enough lines that has each text on its own line and nothing of effect elsewhere,
whatever blanks, comments and ends the lines have. What is read of a source is such a list, the
source itself is one of its renderings, and all others are read as the same. -/
theorem effectiveLines_render :
    (∀ lines, IsScript lines →
      (∃ layout : Layout, layout.Covers lines)
        ∧ ∀ layout : Layout, layout.Covers lines → effectiveLines (layout.render lines) = lines)
      ∧ ∀ source, IsScript (effectiveLines source)
          ∧ (∃ layout : Layout, layout.Covers (effectiveLines source)
            ∧ layout.render (effectiveLines source) = source)
          ∧ ∀ layout : Layout, layout.Covers (effectiveLines source) →
              effectiveLines (layout.render (effectiveLines source)) = effectiveLines source := by
  have readBack : ∀ lines, IsScript lines → ∀ layout : Layout, layout.Covers lines →
      effectiveLines (layout.render lines) = lines :=
    fun lines isScript layout covers => layout.effectiveLines_layout isScript covers
  refine ⟨fun lines isScript => ⟨exists_covers lines, readBack lines isScript⟩, ?_⟩
  intro source
  have isScript := isScript_effectiveLines source
  exact ⟨isScript, exists_layout source, readBack _ isScript⟩

/-- Blanks of many kinds, a text with a carriage return inside, comments with number signs, both
ends of a line, and a last line without one. -/
theorem effectiveLines_render_cluttered :
    let lines := [(2, "F\rB"), (4, "5\u00a0F")]
    let layout : Layout :=
      { ended :=
          [{ before := [' ', '\t'], comment := some ['#', 'F', '\r'] },
            { before := ['\u3000'], after := ['\r', '\u2028'], hasReturn := true },
            { hasReturn := true }]
        unended := some { after := ['\x0b'], comment := some [' ', 'L'] } }
    IsScript lines ∧ layout.Covers lines
      ∧ layout.render lines = " \t##F\r\n\u3000F\rB\r\u2028\r\n\r\n5\u00a0F\x0b# L"
      ∧ effectiveLines (layout.render lines) = lines := by
  intro lines layout
  have isScript : IsScript lines := by
    constructor
    · decide
    · decide
    · intro line member
      simp only [lines, List.mem_cons, List.not_mem_nil, or_false] at member
      rcases member with rfl | rfl
      · exact ⟨by decide, by decide, by decide, by decide⟩
      · exact ⟨by decide, by decide, by decide, by decide⟩
  have covers : layout.Covers lines := by
    intro line member
    simp only [lines, List.mem_cons, List.not_mem_nil, or_false] at member
    rcases member with rfl | rfl <;> decide
  obtain ⟨-, readBack⟩ := effectiveLines_render.1 lines isScript
  exact ⟨isScript, covers, by decide, readBack layout covers⟩

end GridRobot.Script
