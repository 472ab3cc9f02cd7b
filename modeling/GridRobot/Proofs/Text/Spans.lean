import Mathlib.Data.List.TakeWhile

/-! # Spans

A reader often takes characters as long as they are of one kind. Where a span of that kind is
followed by something else, or by nothing, it takes the span and leaves the rest. So the span can be
told from the rest (`span_unique`), and so can what is ended by a sign that it does not hold itself
(`ended_unique`). -/

namespace GridRobot.Text

section

variable {kind : Char → Bool} {span rest : List Char} (all : ∀ c ∈ span, kind c = true)
  (stops : ∀ c ∈ rest.head?, kind c = false)

include all stops

theorem takeWhile_of_stops : (span ++ rest).takeWhile kind = span := by
  rw [List.takeWhile_append_of_pos all]
  cases rest with
  | nil => rw [List.takeWhile_nil, List.append_nil]
  | cons c rest =>
    have stop : c ∈ (c :: rest).head? := rfl
    rw [List.takeWhile_cons_of_neg (Bool.eq_false_iff.mp (stops c stop)), List.append_nil]

theorem dropWhile_of_stops : (span ++ rest).dropWhile kind = rest := by
  rw [List.dropWhile_append_of_pos all]
  cases rest with
  | nil => rfl
  | cons c rest =>
    have stop : c ∈ (c :: rest).head? := rfl
    rw [List.dropWhile_cons_of_neg (Bool.eq_false_iff.mp (stops c stop))]

theorem span_unique {other left : List Char} (otherAll : ∀ c ∈ other, kind c = true)
    (otherStops : ∀ c ∈ left.head?, kind c = false) (same : span ++ rest = other ++ left) :
    span = other ∧ rest = left := by
  constructor
  · rw [← takeWhile_of_stops all stops, same, takeWhile_of_stops otherAll otherStops]
  · rw [← dropWhile_of_stops all stops, same, dropWhile_of_stops otherAll otherStops]

end

/-! ## Signs that end a text -/

/-- Holds none of the signs. -/
def Free (signs cs : List Char) : Prop :=
  ∀ c ∈ cs, c ∉ signs

instance (signs cs : List Char) : Decidable (Free signs cs) :=
  List.decidableBAll (fun c => c ∉ signs) cs

variable {signs before other rest left : List Char}

theorem free_unique (free : Free signs before) (otherFree : Free signs other)
    (stops : ∀ c ∈ rest.head?, c ∈ signs) (otherStops : ∀ c ∈ left.head?, c ∈ signs)
    (same : before ++ rest = other ++ left) : before = other ∧ rest = left := by
  let kind (c : Char) : Bool := decide (c ∉ signs)
  have inside : ∀ cs, Free signs cs → ∀ c ∈ cs, kind c = true :=
    fun cs free c member => decide_eq_true (free c member)
  have outside : ∀ cs : List Char, (∀ c ∈ cs.head?, c ∈ signs) → ∀ c ∈ cs.head?, kind c = false :=
    fun cs stops c first => decide_eq_false (not_not_intro (stops c first))
  exact span_unique (inside before free) (outside rest stops) (inside other otherFree)
    (outside left otherStops) same

theorem ended_unique {sign otherSign : Char} (free : Free signs before)
    (otherFree : Free signs other) (ends : sign ∈ signs) (otherEnds : otherSign ∈ signs)
    (same : before ++ sign :: rest = other ++ otherSign :: left) :
    before = other ∧ sign = otherSign ∧ rest = left := by
  have stops : ∀ {sign : Char} {cs : List Char}, sign ∈ signs →
      ∀ c ∈ (sign :: cs).head?, c ∈ signs := by
    rintro sign cs ends c ⟨⟩
    exact ends
  obtain ⟨befores, rests⟩ := free_unique free otherFree (stops ends) (stops otherEnds) same
  exact ⟨befores, List.cons_eq_cons.mp rests⟩

theorem before_unique {sign : Char} (free : Free [sign] before) (otherFree : Free [sign] other)
    (same : before ++ sign :: rest = other ++ sign :: left) : before = other ∧ rest = left := by
  have ends := List.mem_singleton_self sign
  obtain ⟨befores, -, rests⟩ := ended_unique free otherFree ends ends same
  exact ⟨befores, rests⟩

end GridRobot.Text
