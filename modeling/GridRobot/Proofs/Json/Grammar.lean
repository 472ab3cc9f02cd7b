import GridRobot.Json.Value

/-! # The grammar of JSON

Which texts are JSON, and what they say, told by rules alone and not by a reader. Every token has
its spellings, a text spells tokens out with any gaps around them, and a text writes a value if it
spells out the tokens of that value. A value may be written in many ways: with other gaps, with
characters escaped, with an exponent in other letters. -/

namespace GridRobot.Json

/-! ## Numbers -/

namespace Number

/-- One digit or more. -/
def Digits (cs : List Char) : Prop :=
  cs ≠ [] ∧ ∀ c ∈ cs, c.isDigit = true

def sign (negative : Bool) : List Char :=
  if negative then ['-'] else []

/-- The part before the point: a zero alone, or digits that do not start with zero. -/
inductive WholeSpelled : Nat → List Char → Prop where
  | zero : WholeSpelled 0 ['0']
  | digits {d : Char} {ds : List Char} (noZero : d ≠ '0') (digits : Digits (d :: ds)) :
      WholeSpelled (Nat.ofDigitChars 10 (d :: ds) 0) (d :: ds)

/-- The point and the digits after it, or nothing. -/
inductive FractionSpelled : List (Fin 10) → List Char → Prop where
  | absent : FractionSpelled [] []
  | digits {ds : List Char} (digits : Digits ds) :
      FractionSpelled (ds.map digitValue) ('.' :: ds)

/-- The exponent in either letter and with either sign or none, or nothing. -/
inductive ExponentSpelled : Option Int → List Char → Prop where
  | absent : ExponentSpelled none []
  | plain {e : Char} {ds : List Char} (letter : e = 'e' ∨ e = 'E') (digits : Digits ds) :
      ExponentSpelled (some (Nat.ofDigitChars 10 ds 0 : Nat)) (e :: ds)
  | plus {e : Char} {ds : List Char} (letter : e = 'e' ∨ e = 'E') (digits : Digits ds) :
      ExponentSpelled (some (Nat.ofDigitChars 10 ds 0 : Nat)) (e :: '+' :: ds)
  | minus {e : Char} {ds : List Char} (letter : e = 'e' ∨ e = 'E') (digits : Digits ds) :
      ExponentSpelled (some (-(Nat.ofDigitChars 10 ds 0 : Nat))) (e :: '-' :: ds)

inductive Spelled : Number → List Char → Prop where
  | parts (negative : Bool) {whole : Nat} {fraction : List (Fin 10)} {exponent : Option Int}
      {ws fs es : List Char} (wholeSpelled : WholeSpelled whole ws)
      (fractionSpelled : FractionSpelled fraction fs)
      (exponentSpelled : ExponentSpelled exponent es) :
      Spelled ⟨negative, whole, fraction, exponent⟩ (sign negative ++ (ws ++ (fs ++ es)))

end Number

/-! ## Literals -/

namespace Literal

/-- The items between the quotes: characters as they are, short escapes, and units by number. -/
inductive PiecesSpelled : List Piece → List Char → Prop where
  | nil : PiecesSpelled [] []
  | raw {c : Char} {ps : List Piece} {cs : List Char} (noControl : ¬ c.toNat < 0x20)
      (noQuote : c ≠ '"') (noBackslash : c ≠ '\\') (rest : PiecesSpelled ps cs) :
      PiecesSpelled (.char c :: ps) (c :: cs)
  | escape {e c : Char} {ps : List Piece} {cs : List Char} (escaped : escaped? e = some c)
      (rest : PiecesSpelled ps cs) : PiecesSpelled (.char c :: ps) ('\\' :: e :: cs)
  | unit {a b c d : Char} {n : Nat} {ps : List Piece} {cs : List Char}
      (hex : unit? a b c d = some n) (rest : PiecesSpelled ps cs) :
      PiecesSpelled (.unit n :: ps) ('\\' :: 'u' :: a :: b :: c :: d :: cs)

/-- The characters that items stand for. Half of a pair without the other stands for nothing. -/
inductive Gives : List Piece → List Char → Prop where
  | nil : Gives [] []
  | char (c : Char) {ps : List Piece} {cs : List Char} (rest : Gives ps cs) :
      Gives (.char c :: ps) (c :: cs)
  | unit {n : Nat} {ps : List Piece} {cs : List Char} (noHigh : isHighHalf n = false)
      (noLow : isLowHalf n = false) (rest : Gives ps cs) :
      Gives (.unit n :: ps) (Char.ofNat n :: cs)
  | pair {high low : Nat} {ps : List Piece} {cs : List Char} (isHigh : isHighHalf high = true)
      (isLow : isLowHalf low = true) (rest : Gives ps cs) :
      Gives (.unit high :: .unit low :: ps) (ofPair high low :: cs)

/-- What stands between the quotes of a literal, and the text that the literal stands for. -/
inductive Spelled : Option String → List Char → Prop where
  | text {ps : List Piece} {cs body : List Char} (pieces : PiecesSpelled ps body)
      (gives : Gives ps cs) : Spelled (some (String.ofList cs)) body
  | noText {ps : List Piece} {body : List Char} (pieces : PiecesSpelled ps body)
      (halves : ∀ cs, ¬ Gives ps cs) : Spelled none body

end Literal

/-! ## Tokens -/

inductive Token.Spelled : Token → List Char → Prop where
  | openArray : Spelled .openArray ['[']
  | closeArray : Spelled .closeArray [']']
  | openObject : Spelled .openObject ['\x7b']
  | closeObject : Spelled .closeObject ['\x7d']
  | comma : Spelled .comma [',']
  | colon : Spelled .colon [':']
  | null : Spelled .null ['n', 'u', 'l', 'l']
  | true : Spelled (.bool true) ['t', 'r', 'u', 'e']
  | false : Spelled (.bool false) ['f', 'a', 'l', 's', 'e']
  | number {n : Number} {cs : List Char} (spelled : n.Spelled cs) : Spelled (.number n) cs
  | string {s : Option String} {body : List Char} (spelled : Literal.Spelled s body) :
      Spelled (.string s) ('"' :: (body ++ ['"']))

/-- The characters spell the tokens in order, with gaps before, between and after them. -/
inductive SpelledOut : List Token → List Char → Prop where
  | nil : SpelledOut [] []
  | gap {ts : List Token} {c : Char} {cs : List Char} (isGap : isGap c = true)
      (rest : SpelledOut ts cs) : SpelledOut ts (c :: cs)
  | token {t : Token} {ts : List Token} {cs ds : List Char} (spelled : t.Spelled cs)
      (rest : SpelledOut ts ds) : SpelledOut (t :: ts) (cs ++ ds)

/-! ## Values -/

/-- The text is JSON and says this value. -/
def IsWrittenAs (j : Json) (text : String) : Prop :=
  SpelledOut j.tokens text.toList

/-- The text is JSON. -/
def WellFormed (text : String) : Prop :=
  ∃ j : Json, j.IsWrittenAs text

end GridRobot.Json
