import GridRobot.Proofs.Script.Lines

/-! # The effective lines among the pieces of a source

The effective lines of a source are what is left of the pieces between its line feeds
(`effectiveLines_pieces`). What is left of a piece is told by the piece alone: `Leaves` cuts it into
blanks, a text, blanks and a comment, and `strip` finds the only such text. -/

namespace GridRobot.Script

open Text

/-! ## What is left of a piece -/

/-- Cut into a text without blanks at its ends, the blanks around it, and a comment. -/
inductive Leaves : List Char → List Char → Prop where
  | intro {before text after comment : List Char} (blankBefore : Blank before)
      (blankAfter : Blank after) (ends : NoBlankEnds text) (noComment : '#' ∉ text)
      (isComment : ∀ c ∈ comment.head?, c = '#') :
      Leaves (before ++ text ++ after ++ comment) text

theorem noComment_of_blank {cs : List Char} (blank : Blank cs) : '#' ∉ cs := by
  intro member
  cases blank '#' member

theorem leaves_strip (piece : List Char) : Leaves piece (strip piece) := by
  let kept := piece.takeWhile (· ≠ '#')
  obtain ⟨before, after, blankBefore, blankAfter, whole⟩ := exists_blank_around_trim kept
  have cut : before ++ strip piece ++ after ++ piece.dropWhile (· ≠ '#') = piece := by
    rw [strip, ← whole]
    exact List.takeWhile_append_dropWhile
  have noComment : '#' ∉ strip piece := by
    intro member
    have before := List.mem_takeWhile_imp ((trim_sublist kept).subset member)
    simp at before
  have isComment : ∀ c ∈ (piece.dropWhile (· ≠ '#')).head?, c = '#' := by
    intro c first
    have stops := List.head?_dropWhile_not (fun c => decide (c ≠ '#')) piece
    rw [Option.mem_def.mp first] at stops
    simpa using stops
  have leaves := Leaves.intro blankBefore blankAfter (noBlankEnds_trim kept) noComment isComment
  -- Only the piece is to be put together again, not the one that the text is made from.
  have whole : Leaves (before ++ strip piece ++ after ++ piece.dropWhile (· ≠ '#')) (strip piece) :=
    leaves
  rwa [cut] at whole

theorem strip_eq_iff {piece text : List Char} : strip piece = text ↔ Leaves piece text := by
  refine ⟨fun same => same ▸ leaves_strip piece, ?_⟩
  rintro @⟨before, text, after, comment, blankBefore, blankAfter, ends, noComment, isComment⟩
  have kept : (before ++ text ++ after ++ comment).takeWhile (· ≠ '#') = before ++ text ++ after := by
    have none : comment.takeWhile (· ≠ '#') = [] := by
      cases comment with
      | nil => rfl
      | cons c comment =>
        obtain rfl := isComment c rfl
        exact List.takeWhile_cons_of_neg (by simp)
    rw [List.takeWhile_append_of_pos, none, List.append_nil]
    intro c member
    rw [decide_eq_true_eq]
    rintro rfl
    rcases List.mem_append.mp member with earlier | trailing
    · rcases List.mem_append.mp earlier with leading | inside
      · exact noComment_of_blank blankBefore leading
      · exact noComment inside
    · exact noComment_of_blank blankAfter trailing
  rw [strip, kept]
  exact trim_eq_iff.mpr ⟨ends, before, after, blankBefore, blankAfter, rfl⟩

/-- A text that no line would lose anything of. -/
structure IsBare (text : String) : Prop where
  nonempty : text ≠ ""
  noComment : '#' ∉ text.toList
  oneLine : '\n' ∉ text.toList
  ends : NoBlankEnds text.toList

theorem Leaves.subset {piece text : List Char} (leaves : Leaves piece text) : text ⊆ piece := by
  cases leaves with
  | intro blankBefore blankAfter ends noComment isComment =>
    intro c member
    simp [member]

theorem Leaves.isBare {piece : List Char} {text : String} (leaves : Leaves piece text.toList)
    (nonempty : text ≠ "") (oneLine : '\n' ∉ piece) : IsBare text := by
  have still : '\n' ∉ text.toList := fun member => oneLine (leaves.subset member)
  generalize left : text.toList = cs at leaves still
  cases leaves with
  | intro blankBefore blankAfter ends noComment isComment =>
    rw [← left] at ends noComment still
    exact ⟨nonempty, noComment, still, ends⟩

/-! ## Which lines are effective -/

/-- What stands between the line feeds of a source, and before the first and after the last one. -/
def pieces (source : String) : List (List Char) :=
  source.toList.splitOn '\n'

theorem newline_not_mem_of_mem_pieces {source : String} {piece : List Char}
    (member : piece ∈ pieces source) : '\n' ∉ piece :=
  not_mem_of_mem_splitOn member

/-- The lines are numbered as the pieces are. -/
theorem effectiveLines_eq_filterMap (source : String) :
    effectiveLines source
      = ((pieces source).zipIdx 1).filterMap fun (piece, number) =>
          if strip piece = [] then none else some (number, String.ofList (strip piece)) := by
  rw [effectiveLines_eq, numbered, List.zipIdx_succ, List.filterMap_map]
  rfl

theorem mem_effectiveLines_iff {source text : String} {number : Nat} :
    (number, text) ∈ effectiveLines source
      ↔ 1 ≤ number ∧ text ≠ "" ∧ ∃ piece, (pieces source)[number - 1]? = some piece
          ∧ Leaves piece text.toList := by
  rw [effectiveLines_eq_filterMap, List.mem_filterMap]
  constructor
  · rintro ⟨⟨piece, _⟩, among, found⟩
    simp only at found
    split at found
    · cases found
    next left =>
      cases found
      obtain ⟨least, here⟩ := List.mk_mem_zipIdx_iff_le_and_getElem?_sub.mp among
      refine ⟨least, by simpa using left, piece, here, ?_⟩
      rw [String.toList_ofList]
      exact leaves_strip piece
  · rintro ⟨least, nonempty, piece, here, leaves⟩
    refine ⟨(piece, number), List.mk_mem_zipIdx_iff_le_and_getElem?_sub.mpr ⟨least, here⟩, ?_⟩
    have left : strip piece = text.toList := strip_eq_iff.mpr leaves
    simp only
    rw [left, if_neg (by simpa using nonempty), String.ofList_toList]

theorem effectiveLines_increasing (source : String) :
    (effectiveLines source).Pairwise fun line later => line.1 < later.1 := by
  rw [effectiveLines_eq_filterMap]
  have increasing : ((pieces source).zipIdx 1).Pairwise fun p q => p.2 < q.2 := by
    rw [← List.pairwise_map (f := Prod.snd) (R := (· < ·)), List.zipIdx_map_snd]
    exact List.pairwise_lt_range'
  apply increasing.filterMap
  rintro ⟨piece, number⟩ ⟨later, further⟩ less line found next given
  simp only at found given
  split at found
  · cases found
  split at given
  · cases given
  cases found
  cases given
  exact less

theorem isBare_of_mem_effectiveLines {source : String} {line : Nat × String}
    (member : line ∈ effectiveLines source) : 1 ≤ line.1 ∧ IsBare line.2 := by
  obtain ⟨least, nonempty, piece, here, leaves⟩ := mem_effectiveLines_iff.mp member
  exact ⟨least, leaves.isBare nonempty (newline_not_mem_of_mem_pieces (List.mem_of_getElem? here))⟩

/-- **Effective lines.** A source is cut at every line feed and nowhere else, the pieces are counted
from one, and a line is effective if and only if something is left of its piece: the part before the
first number sign, without the blanks at its ends. The numbers increase, so no line is lost, moved
or given twice, and no line holds anything that would be taken from it again. -/
theorem effectiveLines_pieces (source : String) :
    effectiveLines source
        = (((pieces source).zipIdx 1).filterMap fun (piece, number) =>
            let text := trim (piece.takeWhile (· ≠ '#'))
            if text = [] then none else some (number, String.ofList text))
      ∧ (∀ number text, (number, text) ∈ effectiveLines source ↔
          1 ≤ number ∧ text ≠ ""
            ∧ ∃ piece, (pieces source)[number - 1]? = some piece ∧ Leaves piece text.toList)
      ∧ (∀ piece text left, Leaves piece text → Leaves piece left → text = left)
      ∧ (effectiveLines source).Pairwise (fun line later => line.1 < later.1)
      ∧ ∀ line ∈ effectiveLines source, 1 ≤ line.1 ∧ IsBare line.2 := by
  refine ⟨effectiveLines_eq_filterMap source, fun _ _ => mem_effectiveLines_iff, ?_,
    effectiveLines_increasing source, fun _ => isBare_of_mem_effectiveLines⟩
  intro piece text left leaves others
  exact (strip_eq_iff.mpr leaves).symm.trans (strip_eq_iff.mpr others)

example : effectiveLines "\tF B\r\r\n # L\nR\u3000#\r\n\rB#F" = [(1, "F B"), (3, "R"), (4, "B")] := by
  decide

end GridRobot.Script
