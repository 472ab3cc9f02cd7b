import GridRobot.Json.Token
import GridRobot.Proofs.Json.Literal
import GridRobot.Proofs.Json.Number
import Mathlib.Data.List.Chain

/-! # The scanner is exact

A text is cut into tokens if and only if it spells them out: `tokens?_eq_some_iff`. The only
condition is `Separated`, that no two words or numbers stand side by side, because these end only
where something else begins.

The scanner takes one character at a time. A word and a number go on as long as they can
(`Keeps.run`), and a literal goes on up to the first quote outside an escape (`run_unquoted`,
`split_of_inString`); what the scanner does then is told by the reader of what it has kept. -/

namespace GridRobot.Json

/-! ## Neighbours -/

/-- Only what follows a word or a number says that it has ended. -/
def Token.isOpenEnded : Token → Bool
  | .null | .bool _ | .number _ => true
  | _ => false

/-- No two neighbours run together. -/
def Separated (ts : List Token) : Prop :=
  ts.IsChain fun t next => t.isOpenEnded = true → next.isOpenEnded = false

/-- What comes first ends a word or a number. -/
def Stops (cs : List Char) : Prop :=
  ∀ c ∈ cs.head?, c.isLower = false ∧ Number.isNumberChar c = false

theorem stops_cons {c : Char} (noLower : c.isLower = false)
    (noNumber : Number.isNumberChar c = false) (cs : List Char) : Stops (c :: cs) := by
  intro d first
  obtain rfl : c = d := by simpa using first
  exact ⟨noLower, noNumber⟩

theorem SpelledOut.stops {ts : List Token} {cs : List Char} (text : SpelledOut ts cs)
    (closed : ∀ t ∈ ts.head?, t.isOpenEnded = false) : Stops cs := by
  cases text with
  | nil => simp [Stops]
  | @gap _ c cs isGap rest =>
    have gaps : c = ' ' ∨ c = '\t' ∨ c = '\n' ∨ c = '\r' := by
      simpa [Json.isGap, or_assoc] using isGap
    rcases gaps with rfl | rfl | rfl | rfl
    all_goals exact stops_cons rfl rfl cs
  | token spelled =>
    have first := closed _ rfl
    cases spelled with
    | openArray | closeArray | openObject | closeObject | comma | colon | string =>
      exact stops_cons rfl rfl _
    | null | true | false | number => cases first

/-! ## The scanner on a stretch of characters -/

namespace Scanner

theorem run_cons (scanner : Scanner) (c : Char) (cs : List Char) :
    scanner.run (c :: cs)
      = (scanner.feed c).bind fun result => (result.2.run cs).map (result.1 ++ ·) := by
  rw [run]
  cases scanner.feed c with
  | none => rfl
  | some result => rfl

theorem run_of_feed {scanner next : Scanner} {c : Char} (fed : scanner.feed c = some ([], next))
    (cs : List Char) : scanner.run (c :: cs) = next.run cs := by
  rw [run_cons, fed]
  simp

theorem run_gap {c : Char} (isGap : isGap c = true) (cs : List Char) :
    between.run (c :: cs) = between.run cs := by
  have skipped : between.feed c = some ([], between) := if_pos isGap
  rw [run_of_feed skipped]

/-! ### Words and numbers -/

/-- A scanner of words or of numbers: it keeps what it is fed as long as that is of its kind, and
then gives out what it has kept. -/
structure Keeps (scanner : List Char → Scanner) (kind : Char → Bool)
    (token : List Char → Option Token) : Prop where
  keeps : ∀ read c, kind c = true → (scanner read).feed c = some ([], scanner (c :: read))
  ends : ∀ read c, kind c = false → (scanner read).feed c = startAfter (token read) c
  finishes : ∀ read, (scanner read).finish = (token read).map ([·])

theorem keeps_inWord : Keeps inWord Char.isLower wordToken where
  keeps _ _ isLower := if_pos isLower
  ends _ _ noLower := if_neg (Bool.eq_false_iff.mp noLower)
  finishes _ := rfl

theorem keeps_inNumber : Keeps inNumber Number.isNumberChar numberToken where
  keeps _ _ isNumber := if_pos isNumber
  ends _ _ noNumber := if_neg (Bool.eq_false_iff.mp noNumber)
  finishes _ := rfl

variable {scanner : List Char → Scanner} {kind : Char → Bool} {token : List Char → Option Token}

/-- It goes on as long as it can. -/
theorem Keeps.run (keeps : Keeps scanner kind token) (read cs : List Char) :
    (scanner read).run cs
      = (token ((cs.takeWhile kind).reverse ++ read)).bind fun t =>
          (between.run (cs.dropWhile kind)).map (t :: ·) := by
  induction cs generalizing read with
  | nil =>
    rw [Scanner.run, keeps.finishes, List.takeWhile_nil, List.reverse_nil, List.nil_append]
    cases token read <;> rfl
  | cons c cs ih =>
    cases isKind : kind c with
    | true =>
      rw [run_of_feed (keeps.keeps read c isKind), ih, List.takeWhile_cons_of_pos isKind,
        List.dropWhile_cons_of_pos isKind, List.reverse_cons, List.append_assoc,
        List.singleton_append]
    | false =>
      have noKind : ¬ kind c = true := Bool.eq_false_iff.mp isKind
      rw [List.takeWhile_cons_of_neg noKind, List.dropWhile_cons_of_neg noKind, run_cons, run_cons,
        keeps.ends read c isKind, feed, List.reverse_nil, List.nil_append]
      -- Both sides start what `c` starts; only the left one gives the token out before it.
      cases token read with
      | none => rfl
      | some t => cases started : start c <;> simp [startAfter, started, Function.comp_def]

/-! ### Literals -/

theorem feed_plain (read : List Char) {c : Char} (noQuote : c ≠ '"') (noBackslash : c ≠ '\\') :
    (inString read).feed c = some ([], inString (c :: read)) :=
  (if_neg noQuote).trans (if_neg noBackslash)

theorem feed_backslash (read : List Char) :
    (inString read).feed '\\' = some ([], afterBackslash ('\\' :: read)) :=
  rfl

/-- After a backslash the scanner takes any one character, a quote included. -/
theorem feed_escaped (read : List Char) (e : Char) :
    (afterBackslash read).feed e = some ([], inString (e :: read)) :=
  rfl

/-- Up to a quote outside an escape everything is kept, and the quote ends the literal. -/
theorem run_unquoted {body : List Char} (unquoted : Literal.Unquoted body)
    (read rest : List Char) :
    (inString read).run (body ++ '"' :: rest)
      = (Literal.read? (read.reverse ++ body)).bind fun s =>
          (between.run rest).map (.string s :: ·) := by
  induction unquoted generalizing read with
  | nil =>
    rw [List.nil_append, List.append_nil, run_cons, feed, if_pos rfl]
    cases Literal.read? read.reverse <;> rfl
  | plain noQuote noBackslash _ ih =>
    rw [List.cons_append, run_of_feed (feed_plain read noQuote noBackslash), ih]
    simp
  | escaped e _ ih =>
    rw [List.cons_append, List.cons_append, run_of_feed (feed_backslash read),
      run_of_feed (feed_escaped _ e), ih]
    simp

/-- A literal that ends does so at a quote outside an escape. -/
theorem split_of_inString (cs : List Char) :
    (∀ {read ts}, (inString read).run cs = some ts →
        ∃ body rest, cs = body ++ '"' :: rest ∧ Literal.Unquoted body)
      ∧ ∀ {read ts}, (afterBackslash read).run cs = some ts →
        ∃ body rest, '\\' :: cs = body ++ '"' :: rest ∧ Literal.Unquoted body := by
  -- Both scanners at once, for a backslash leads from the one to the other, and any character back.
  induction cs with
  | nil => exact ⟨nofun, nofun⟩
  | cons c cs ih =>
    obtain ⟨ihString, ihEscape⟩ := ih
    constructor
    · intro read ts scanned
      by_cases quote : c = '"'
      · exact ⟨[], cs, by rw [quote, List.nil_append], .nil⟩
      · by_cases backslash : c = '\\'
        · subst backslash
          rw [run_of_feed (feed_backslash read)] at scanned
          exact ihEscape scanned
        · rw [run_of_feed (feed_plain read quote backslash)] at scanned
          obtain ⟨body, rest, rfl, unquoted⟩ := ihString scanned
          exact ⟨c :: body, rest, rfl, .plain quote backslash unquoted⟩
    · intro read ts scanned
      rw [run_of_feed (feed_escaped read c)] at scanned
      obtain ⟨body, rest, rfl, unquoted⟩ := ihString scanned
      exact ⟨'\\' :: c :: body, rest, rfl, .escaped c unquoted⟩

/-! ## One token -/

/-- What a character starts that stands between tokens, in the order in which it is tried. -/
theorem start_cases {c : Char} {result : List Token × Scanner} (started : start c = some result) :
    (isGap c = true ∧ result = ([], between))
      ∨ (c = '"' ∧ result = ([], inString []))
      ∨ result = ([], inNumber [c])
      ∨ result = ([], inWord [c])
      ∨ ∃ t, Token.ofSign? c = some t ∧ result = ([t], between) := by
  unfold start at started
  split at started
  next gap => cases started; exact .inl ⟨gap, rfl⟩
  split at started
  next quote => cases started; exact .inr (.inl ⟨quote, rfl⟩)
  split at started
  next => cases started; exact .inr (.inr (.inl rfl))
  split at started
  next => cases started; exact .inr (.inr (.inr (.inl rfl)))
  next =>
    obtain ⟨t, sign, rfl⟩ := Option.map_eq_some_iff.mp started
    exact .inr (.inr (.inr (.inr ⟨t, sign, rfl⟩)))

theorem spelled_of_ofSign? {c : Char} {t : Token} (sign : Token.ofSign? c = some t) :
    t.Spelled [c] := by
  unfold Token.ofSign? at sign
  split at sign
  all_goals cases sign
  · exact .openArray
  · exact .closeArray
  · exact .openObject
  · exact .closeObject
  · exact .comma
  · exact .colon

theorem spelled_of_ofWord? {cs : List Char} {t : Token} (word : Token.ofWord? cs = some t) :
    t.Spelled cs := by
  unfold Token.ofWord? at word
  split at word
  all_goals cases word
  · exact .null
  · exact .true
  · exact .false

/-- How a text that is cut into tokens begins. -/
inductive Begins : List Char → List Token → Prop where
  | nil : Begins [] []
  | gap {c : Char} {cs : List Char} {ts : List Token} (isGap : isGap c = true)
      (scanned : between.run cs = some ts) : Begins (c :: cs) ts
  | token {t : Token} {front rest : List Char} {ts : List Token} (spelled : t.Spelled front)
      (scanned : between.run rest = some ts) : Begins (front ++ rest) (t :: ts)

/-- What has been kept is the token at the front. -/
theorem Keeps.begins (keeps : Keeps scanner kind token)
    (spells : ∀ {read t}, token read = some t → t.Spelled read.reverse) {c : Char}
    {cs : List Char} {ts : List Token} (scanned : (scanner [c]).run cs = some ts) :
    Begins (c :: cs) ts := by
  rw [keeps.run] at scanned
  obtain ⟨t, read, scanned⟩ := Option.bind_eq_some_iff.mp scanned
  obtain ⟨later, scannedLater, rfl⟩ := Option.map_eq_some_iff.mp scanned
  have spelled : t.Spelled (c :: cs.takeWhile kind) := by simpa using spells read
  have begins := Begins.token spelled scannedLater
  rwa [List.cons_append, List.takeWhile_append_dropWhile] at begins

theorem begins_string {cs : List Char} {ts : List Token}
    (scanned : (inString []).run cs = some ts) : Begins ('"' :: cs) ts := by
  obtain ⟨body, rest, rfl, unquoted⟩ := (split_of_inString cs).1 scanned
  rw [run_unquoted unquoted] at scanned
  obtain ⟨s, read, scanned⟩ := Option.bind_eq_some_iff.mp scanned
  obtain ⟨later, scannedLater, rfl⟩ := Option.map_eq_some_iff.mp scanned
  have spelled := Token.Spelled.string ((Literal.read?_eq_some_iff unquoted).mp read)
  have begins := Begins.token spelled scannedLater
  rwa [List.cons_append, List.append_assoc, List.singleton_append] at begins

theorem begins_of_run {cs : List Char} {ts : List Token} (scanned : between.run cs = some ts) :
    Begins cs ts := by
  cases cs with
  | nil =>
    cases scanned
    exact .nil
  | cons c cs =>
    rw [run_cons, feed] at scanned
    obtain ⟨result, started, scanned⟩ := Option.bind_eq_some_iff.mp scanned
    obtain ⟨later, scannedLater, rfl⟩ := Option.map_eq_some_iff.mp scanned
    -- Only a gap and a sign are done with; the rest of a literal, number or word is still to come.
    rcases start_cases started with ⟨gap, rfl⟩ | ⟨rfl, rfl⟩ | rfl | rfl | ⟨t, sign, rfl⟩
    · exact .gap gap scannedLater
    · exact begins_string scannedLater
    · refine keeps_inNumber.begins ?_ scannedLater
      intro read t number
      obtain ⟨n, read, rfl⟩ := Option.map_eq_some_iff.mp number
      exact .number (Number.ofChars?_eq_some_iff.mp read)
    · exact keeps_inWord.begins spelled_of_ofWord? scannedLater
    · exact .token (spelled_of_ofSign? sign) scannedLater

/-! ### Every spelling is scanned -/

theorem start_of_isDigit {c : Char} (isDigit : c.isDigit = true) :
    start c = some ([], inNumber [c]) := by
  have other : ∀ d : Char, d.isDigit = false → c ≠ d := by
    rintro d noDigit rfl
    rw [noDigit] at isDigit
    exact Bool.false_ne_true isDigit
  have noGap : isGap c = false := by
    simp [isGap, other ' ' rfl, other '\t' rfl, other '\n' rfl, other '\r' rfl]
  simp [start, noGap, other '"' rfl, isDigit]

/-- A word or a number is kept in full, because what follows stops it. -/
theorem Keeps.run_append (keeps : Keeps scanner kind token) {c : Char} {t : Token}
    {cs rest : List Char} (begins : between.feed c = some ([], scanner [c]))
    (all : ∀ d ∈ cs, kind d = true) (stops : ∀ d ∈ rest.head?, kind d = false)
    (read : token (cs.reverse ++ [c]) = some t) :
    between.run (c :: cs ++ rest) = (between.run rest).map (t :: ·) := by
  rw [List.cons_append, run_of_feed begins, keeps.run, Text.takeWhile_of_stops all stops,
    Text.dropWhile_of_stops all stops, read, Option.bind_some]

theorem run_word {t : Token} {c : Char} {cs : List Char}
    (begins : between.feed c = some ([], inWord [c]))
    (lower : cs.all Char.isLower = true) (word : Token.ofWord? (c :: cs) = some t)
    {rest : List Char} (stops : Stops rest) :
    between.run (c :: cs ++ rest) = (between.run rest).map (t :: ·) := by
  apply keeps_inWord.run_append begins (List.all_eq_true.mp lower)
    (fun d first => (stops d first).1)
  rw [wordToken, List.reverse_append, List.reverse_reverse]
  exact word

theorem run_number {n : Number} {cs : List Char} (spelled : n.Spelled cs) {rest : List Char}
    (stops : Stops rest) : between.run (cs ++ rest) = (between.run rest).map (.number n :: ·) := by
  obtain ⟨c, cs, rfl, head⟩ := spelled.eq_cons
  have begins : between.feed c = some ([], inNumber [c]) := by
    rcases head with isDigit | rfl
    · exact start_of_isDigit isDigit
    · rfl
  apply keeps_inNumber.run_append begins
    (fun d member => spelled.isNumberChar d (List.mem_cons_of_mem c member))
    (fun d first => (stops d first).2)
  rw [numberToken, List.reverse_append, List.reverse_reverse, List.reverse_singleton,
    List.singleton_append, Number.ofChars?_eq_some_iff.mpr spelled, Option.map_some]

theorem run_literal {s : Option String} {body : List Char} (spelled : Literal.Spelled s body)
    (rest : List Char) :
    between.run ('"' :: (body ++ ['"']) ++ rest) = (between.run rest).map (.string s :: ·) := by
  have opened : between.feed '"' = some ([], inString []) := rfl
  rw [List.cons_append, run_of_feed opened, List.append_assoc, List.singleton_append,
    run_unquoted spelled.unquoted, List.reverse_nil, List.nil_append,
    (Literal.read?_eq_some_iff spelled.unquoted).mpr spelled, Option.bind_some]

theorem run_spelled {t : Token} {cs : List Char} (spelled : t.Spelled cs) {rest : List Char}
    (stops : t.isOpenEnded = true → Stops rest) :
    between.run (cs ++ rest) = (between.run rest).map (t :: ·) := by
  cases spelled with
  | openArray | closeArray | openObject | closeObject | comma | colon => rfl
  | null | true | false => exact run_word rfl rfl rfl (stops rfl)
  | number spelled => exact run_number spelled (stops rfl)
  | string spelled => exact run_literal spelled rest

end Scanner

/-! ## A whole text -/

theorem Token.Spelled.ne_nil {t : Token} {cs : List Char} (spelled : t.Spelled cs) : cs ≠ [] := by
  cases spelled with
  | number spelled =>
    obtain ⟨c, rest, rfl, -⟩ := spelled.eq_cons
    exact List.cons_ne_nil c rest
  | _ => exact List.cons_ne_nil _ _

theorem spelledOut_of_tokens? {cs : List Char} {ts : List Token} (scanned : tokens? cs = some ts) :
    SpelledOut ts cs := by
  -- What is left after a gap or a token is shorter.
  induction length : cs.length using Nat.strongRecOn generalizing cs ts with
  | ind n ih =>
    subst length
    cases Scanner.begins_of_run scanned with
    | nil => exact .nil
    | gap isGap scannedRest => exact .gap isGap (ih _ (by simp) scannedRest rfl)
    | @token t front rest ts spelled scannedRest =>
      have shorter : rest.length < (front ++ rest).length := by
        have some := List.length_pos_iff.mpr spelled.ne_nil
        rw [List.length_append]
        omega
      exact .token spelled (ih _ shorter scannedRest rfl)

theorem tokens?_of_spelledOut {ts : List Token} {cs : List Char} (text : SpelledOut ts cs)
    (separated : Separated ts) : tokens? cs = some ts := by
  change Scanner.between.run cs = some ts
  induction text with
  | nil => rfl
  | gap isGap _ ih => rw [Scanner.run_gap isGap, ih separated]
  | @token t ts cs ds spelled rest ih =>
    have stops : t.isOpenEnded = true → Stops ds := by
      intro openEnded
      apply rest.stops
      intro next first
      -- What comes first is the token after `t`, from which `separated` keeps it apart.
      cases ts with
      | nil => cases first
      | cons second ts =>
        obtain rfl : second = next := by simpa using first
        exact (List.isChain_cons_cons.mp separated).1 openEnded
    rw [Scanner.run_spelled spelled stops, ih separated.tail, Option.map_some]

theorem tokens?_eq_some_iff {ts : List Token} {cs : List Char} (separated : Separated ts) :
    tokens? cs = some ts ↔ SpelledOut ts cs :=
  ⟨spelledOut_of_tokens?, fun text => tokens?_of_spelledOut text separated⟩

/-! ## Written tokens -/

theorem Token.spelled_text (t : Token) : t.Spelled t.text := by
  cases t with
  | openArray => exact .openArray
  | closeArray => exact .closeArray
  | openObject => exact .openObject
  | closeObject => exact .closeObject
  | comma => exact .comma
  | colon => exact .colon
  | null => exact .null
  | bool b =>
    cases b with
    | true => exact .true
    | false => exact .false
  | number n => exact .number n.spelled_text
  | string s =>
    rw [Token.text, Literal.text_eq_body]
    exact .string (Literal.spelled_body s)

/-- The characters write the tokens in order, with gaps before, between and after them. -/
inductive Interspersed : List Token → List Char → Prop where
  | nil : Interspersed [] []
  | gap {ts : List Token} {c : Char} {cs : List Char} (isGap : isGap c = true)
      (rest : Interspersed ts cs) : Interspersed ts (c :: cs)
  | token {ts : List Token} {cs : List Char} (t : Token) (rest : Interspersed ts cs) :
      Interspersed (t :: ts) (t.text ++ cs)

namespace Interspersed

theorem append {ts us : List Token} {cs ds : List Char} (first : Interspersed ts cs)
    (second : Interspersed us ds) : Interspersed (ts ++ us) (cs ++ ds) := by
  induction first with
  | nil => exact second
  | gap isGap _ ih => exact .gap isGap ih
  | token t _ ih =>
    rw [List.append_assoc]
    exact .token t ih

theorem text (t : Token) : Interspersed [t] t.text := by
  have alone := token t nil
  rwa [List.append_nil] at alone

theorem texts (ts : List Token) : Interspersed ts (ts.flatMap Token.text) := by
  induction ts with
  | nil => exact nil
  | cons t ts ih => exact token t ih

theorem gaps {cs : List Char} (all : ∀ c ∈ cs, isGap c = true) : Interspersed [] cs := by
  induction cs with
  | nil => exact nil
  | cons c cs ih =>
    exact gap (all c List.mem_cons_self) (ih fun d member => all d (List.mem_cons_of_mem c member))

/-- What is written of a token is one of its spellings. -/
theorem spelledOut {ts : List Token} {cs : List Char} (text : Interspersed ts cs) :
    SpelledOut ts cs := by
  induction text with
  | nil => exact .nil
  | gap isGap _ ih => exact .gap isGap ih
  | token t _ ih => exact .token t.spelled_text ih

end Interspersed

theorem tokens?_of_interspersed {ts : List Token} {cs : List Char} (text : Interspersed ts cs)
    (separated : Separated ts) : tokens? cs = some ts :=
  tokens?_of_spelledOut text.spelledOut separated

end GridRobot.Json
