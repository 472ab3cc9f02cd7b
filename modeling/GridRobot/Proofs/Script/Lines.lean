import GridRobot.Proofs.Text.Trimming
import GridRobot.Script

/-! # The effective lines of a script

`Text.lines` knows two ways to end a line, and lets the last line do without. None of this matters
to a script: a text may as well be cut at its line feeds, since the blanks at the ends of each
piece are stripped anyway (`effectiveLines_eq`). Most of what is said of effective lines follows
from how cutting at line feeds and numbering the pieces behave on a text in two parts. -/

namespace GridRobot

/-! ## Cutting at line feeds -/

namespace Text

/-- Pieces with their line feeds put back, as `cutAfterNewlines` has them. -/
def withNewlines : List (List Char) → List (List Char)
  | [] => []
  | [last] => if last = [] then [] else [last]
  | piece :: next :: pieces => (piece ++ ['\n']) :: withNewlines (next :: pieces)

theorem cutAfterNewlines_eq (cs : List Char) :
    cutAfterNewlines cs = withNewlines (cs.splitOn '\n') := by
  induction cs with
  | nil => rfl
  | cons c cs ih =>
    obtain ⟨piece, pieces, split⟩ := List.exists_cons_of_ne_nil (cs.splitOn_ne_nil '\n')
    rw [cutAfterNewlines, ih, List.splitOn_cons_eq_if_modifyHead, split]
    by_cases newline : c = '\n'
    · simp [newline, withNewlines]
    · cases pieces with
      | nil => cases piece <;> simp [newline, withNewlines]
      | cons next pieces => simp [newline, withNewlines]

/-! ## Lines that end in a line feed -/

theorem cutAfterNewlines_append {line : List Char} (oneLine : '\n' ∉ line) (rest : List Char) :
    cutAfterNewlines (line ++ '\n' :: rest) = (line ++ ['\n']) :: cutAfterNewlines rest := by
  induction line with
  | nil => rfl
  | cons c line ih =>
    rw [List.mem_cons, not_or] at oneLine
    rw [List.cons_append, cutAfterNewlines, if_neg (Ne.symm oneLine.1), ih oneLine.2]
    rfl

theorem withoutEnd_concat_newline {line : List Char} (noReturn : '\r' ∉ line) :
    withoutEnd (line ++ ['\n']) = line := by
  rw [← List.mem_reverse] at noReturn
  rw [withoutEnd, List.reverse_append, List.reverse_singleton, List.singleton_append]
  split
  next rest reversed =>
    rw [(List.cons.inj reversed).2] at noReturn
    exact absurd List.mem_cons_self noReturn
  next rest _ reversed => rw [← (List.cons.inj reversed).2, List.reverse_reverse]
  next _ noNewline => exact absurd rfl (noNewline line.reverse)

/-- Lines that are printed one after another are the lines of what is printed. -/
theorem lines_flatMap {ls : List (List Char)} (each : ∀ line ∈ ls, '\n' ∉ line ∧ '\r' ∉ line) :
    lines (ls.flatMap fun line => line ++ ['\n']) = ls := by
  unfold lines
  induction ls with
  | nil => rfl
  | cons line ls ih =>
    obtain ⟨oneLine, noReturn⟩ := each line List.mem_cons_self
    have later := ih fun next member => each next (List.mem_cons_of_mem line member)
    rw [List.flatMap_cons, List.append_assoc, List.singleton_append,
      cutAfterNewlines_append oneLine, List.map_cons, withoutEnd_concat_newline noReturn, later]

/-! ## No line is longer than the text -/

theorem flatten_cutAfterNewlines (cs : List Char) : (cutAfterNewlines cs).flatten = cs := by
  induction cs with
  | nil => rfl
  | cons c cs ih =>
    rw [cutAfterNewlines]
    split
    · rw [List.flatten_cons, ih, List.singleton_append]
    · split
      next none => rw [← ih, none]; rfl
      next piece pieces some => rw [← ih, some]; rfl

theorem length_withoutEnd_le (line : List Char) : (withoutEnd line).length ≤ line.length := by
  unfold withoutEnd
  rw [← line.length_reverse]
  split
  next rest reversed =>
    rw [reversed]
    simp only [List.length_reverse, List.length_cons]
    omega
  next rest _ reversed =>
    rw [reversed]
    simp only [List.length_reverse, List.length_cons]
    omega
  next => exact Nat.le_of_eq line.length_reverse.symm

theorem length_le_of_mem_lines {line cs : List Char} (member : line ∈ lines cs) :
    line.length ≤ cs.length := by
  obtain ⟨piece, among, rfl⟩ := List.mem_map.mp member
  have part := (List.sublist_flatten_of_mem among).length_le
  rw [flatten_cutAfterNewlines] at part
  exact Nat.le_trans (length_withoutEnd_le piece) part

end Text

namespace Script

open Text

theorem strip_concat_blank (line : List Char) {c : Char} (blank : isBlank c = true) :
    strip (line ++ [c]) = strip line := by
  have noComment : c ≠ '#' := by
    rintro rfl
    cases blank
  unfold strip
  rw [List.takeWhile_append]
  split
  next whole =>
    rw [List.takeWhile_cons_of_pos (by simpa using noComment), List.takeWhile_nil,
      trim_concat_blank line blank]
    congr 1
    exact (List.takeWhile_prefix _).eq_of_length whole |>.symm
  next => rfl

theorem strip_withoutEnd (line : List Char) : strip (withoutEnd line) = strip line := by
  unfold withoutEnd
  split
  next rest reversed =>
    rw [← line.reverse_reverse, reversed]
    simp only [List.reverse_cons]
    rw [strip_concat_blank _ (by decide), strip_concat_blank _ (by decide)]
  next rest _ reversed =>
    rw [← line.reverse_reverse, reversed, List.reverse_cons, strip_concat_blank _ (by decide)]
  next => rfl

/-! ## Numbering the pieces -/

/-- What a piece of a source comes to, if anything is left of it. -/
def effective? (index : Nat) (piece : List Char) : Option (Nat × String) :=
  if strip piece = [] then none else some (index + 1, String.ofList (strip piece))

/-- The effective lines among pieces of a source. `index` is that of the first piece. -/
def numbered (index : Nat) (pieces : List (List Char)) : List (Nat × String) :=
  (pieces.zipIdx index).filterMap fun (piece, index) => effective? index piece

/-- A line whose number is `n` greater. -/
def renumbered (n : Nat) (line : Nat × String) : Nat × String :=
  (line.1 + n, line.2)

theorem numbered_cons (index : Nat) (piece : List Char) (pieces : List (List Char)) :
    numbered index (piece :: pieces)
      = (effective? index piece).toList ++ numbered (index + 1) pieces := by
  simp only [numbered, List.zipIdx_cons, List.filterMap_cons]
  cases effective? index piece <;> rfl

/-- Only what is left of the pieces counts. -/
theorem numbered_map (index : Nat) {f : List Char → List Char}
    (same : ∀ piece, strip (f piece) = strip piece) (pieces : List (List Char)) :
    numbered index (pieces.map f) = numbered index pieces := by
  induction pieces generalizing index with
  | nil => rfl
  | cons piece pieces ih =>
    rw [List.map_cons, numbered_cons, numbered_cons, ih, effective?, same]
    rfl

theorem numbered_withNewlines (index : Nat) (pieces : List (List Char)) :
    numbered index (withNewlines pieces) = numbered index pieces := by
  fun_induction withNewlines pieces generalizing index with
  | case1 => rfl
  | case2 => rfl
  | case3 => rfl
  | case4 piece next pieces ih =>
    rw [numbered_cons, numbered_cons, ih, effective?, strip_concat_blank _ (by decide)]
    rfl

theorem map_fst_numbered (index : Nat) (pieces : List (List Char)) :
    (numbered index pieces).map Prod.fst
      = ((pieces.zipIdx (index + 1)).filter fun (piece, _) => strip piece ≠ []).map Prod.snd := by
  induction pieces generalizing index with
  | nil => rfl
  | cons piece pieces ih =>
    rw [numbered_cons, List.map_append, ih, List.zipIdx_cons]
    by_cases blank : strip piece = []
    · simp [effective?, blank]
    · simp [effective?, blank]

/-- The lines are counted from one, whether anything is left of them or not. -/
theorem effectiveLines_numbers (source : String) :
    (effectiveLines source).map Prod.fst
      = (((lines source.toList).zipIdx 1).filter fun (line, _) => strip line ≠ []).map Prod.snd :=
  map_fst_numbered 0 (lines source.toList)

/-- The effective lines are what is left of the pieces between line feeds. -/
theorem effectiveLines_eq (source : String) :
    effectiveLines source = numbered 0 (source.toList.splitOn '\n') := by
  change numbered 0 (lines source.toList) = _
  rw [lines, numbered_map 0 strip_withoutEnd, cutAfterNewlines_eq, numbered_withNewlines]

/-! ## A source in two parts -/

/-- The texts of the effective lines, without their numbers. -/
def texts (source : String) : List String :=
  (effectiveLines source).map Prod.snd

theorem strip_sublist (line : List Char) : (strip line).Sublist line :=
  (trim_sublist _).trans (List.takeWhile_sublist _)

theorem strip_strip (line : List Char) : strip (strip line) = strip line := by
  have uncommented : (strip line).takeWhile (· ≠ '#') = strip line := by
    rw [List.takeWhile_eq_self_iff]
    intro c member
    have kept := List.mem_takeWhile_imp ((trim_sublist _).subset member)
    simpa using kept
  rw [strip, uncommented]
  exact trim_trim _

theorem not_mem_of_mem_splitOn {piece cs : List Char} (member : piece ∈ cs.splitOn '\n') :
    '\n' ∉ piece := by
  induction cs generalizing piece with
  | nil =>
    cases List.mem_singleton.mp member
    exact List.not_mem_nil
  | cons c cs ih =>
    rw [List.splitOn_cons_eq_if_modifyHead] at member
    split at member
    next newline =>
      obtain rfl | later := List.mem_cons.mp member
      · exact List.not_mem_nil
      · exact ih later
    next noNewline =>
      obtain ⟨first, pieces, split⟩ := List.exists_cons_of_ne_nil (cs.splitOn_ne_nil '\n')
      rw [split] at ih member
      obtain rfl | later := List.mem_cons.mp member
      · simp only [beq_iff_eq] at noNewline
        rw [List.mem_cons, not_or]
        exact ⟨Ne.symm noNewline, ih List.mem_cons_self⟩
      · exact ih (List.mem_cons_of_mem first later)

/-- What a line keeps is neither empty nor more than one line, and would keep all of itself. -/
theorem of_mem_effectiveLines {source text : String} {number : Nat}
    (member : (number, text) ∈ effectiveLines source) :
    text ≠ "" ∧ '\n' ∉ text.toList ∧ strip text.toList = text.toList := by
  rw [effectiveLines_eq] at member
  obtain ⟨⟨piece, index⟩, among, found⟩ := List.mem_filterMap.mp member
  simp only [effective?] at found
  split at found
  · cases found
  next left =>
    cases found
    have oneLine := not_mem_of_mem_splitOn (List.fst_mem_of_mem_zipIdx among)
    rw [String.toList_ofList]
    refine ⟨by simpa using left, fun newline => ?_, strip_strip piece⟩
    exact oneLine ((strip_sublist piece).subset newline)

/-! ## Lengths -/

theorem length_strip_le (line : List Char) : (strip line).length ≤ line.length :=
  (strip_sublist line).length_le

theorem length_le_of_mem_texts {source text : String} (member : text ∈ texts source) :
    text.length ≤ source.length := by
  obtain ⟨⟨number, left⟩, effective, rfl⟩ := List.mem_map.mp member
  obtain ⟨⟨line, index⟩, among, found⟩ := List.mem_filterMap.mp effective
  simp only at found
  split at found
  · cases found
  · cases found
    have inside : line ∈ lines source.toList := List.fst_mem_of_mem_zipIdx among
    rw [String.length_ofList, ← String.length_toList]
    exact Nat.le_trans (length_strip_le line) (length_le_of_mem_lines inside)

end Script
end GridRobot
