import GridRobot.Text.GraphemeExtend
import GridRobot.Text.Unassigned

/-! # Quoted characters and texts

The form in which a character or a text is shown between quotes. What would be invisible, would
break the line or would join the quote is written as an escape; all else stands for itself. -/

namespace GridRobot.Text

/-! ## Character classes -/

def inRanges (ranges : List (Nat × Nat)) (n : Nat) : Bool :=
  ranges.any fun (low, high) => low ≤ n && n ≤ high

/-- Has the Unicode property Grapheme_Extend. No ASCII character has. -/
def isGraphemeExtend (c : Char) : Bool :=
  0x7F < c.toNat && inRanges graphemeExtendRanges c.toNat

/-- The halfwidth katakana sound marks. They have the property Grapheme_Extend, but they are letters
with a cell of their own beside the character before them. -/
def isHalfwidthSoundMark (c : Char) : Bool :=
  c = '\uFF9E' || c = '\uFF9F'

/-- Is drawn onto the character before it, so that after an opening quote it would join the quote. -/
def joinsPrevious (c : Char) : Bool :=
  isGraphemeExtend c && !isHalfwidthSoundMark c

/-- Control characters: general category Cc. -/
def isControl (c : Char) : Bool :=
  c.toNat ≤ 0x1F || (0x7F ≤ c.toNat && c.toNat ≤ 0x9F)

/-- Separators other than the plain space: general categories Zs, Zl and Zp. -/
def isRareSeparator (c : Char) : Bool :=
  inRanges [(0x00A0, 0x00A0), (0x1680, 0x1680), (0x2000, 0x200A), (0x2028, 0x2029),
    (0x202F, 0x202F), (0x205F, 0x205F), (0x3000, 0x3000)] c.toNat

/-- Format controls: general category Cf. -/
def isFormat (c : Char) : Bool :=
  inRanges [(0x00AD, 0x00AD), (0x0600, 0x0605), (0x061C, 0x061C), (0x06DD, 0x06DD),
    (0x070F, 0x070F), (0x0890, 0x0891), (0x08E2, 0x08E2), (0x180E, 0x180E), (0x200B, 0x200F),
    (0x202A, 0x202E), (0x2060, 0x2064), (0x2066, 0x206F), (0xFEFF, 0xFEFF), (0xFFF9, 0xFFFB),
    (0x110BD, 0x110BD), (0x110CD, 0x110CD), (0x13430, 0x1343F), (0x1BCA0, 0x1BCA3),
    (0x1D173, 0x1D17A), (0xE0001, 0xE0001), (0xE0020, 0xE007F)] c.toNat

/-- Private use: general category Co. -/
def isPrivateUse (c : Char) : Bool :=
  inRanges [(0xE000, 0xF8FF), (0xF0000, 0xFFFFD), (0x100000, 0x10FFFD)] c.toNat

/-- Letters that are drawn as nothing: those with the property Default_Ignorable_Code_Point. -/
def isFiller (c : Char) : Bool :=
  inRanges [(0x115F, 0x1160), (0x3164, 0x3164), (0xFFA0, 0xFFA0)] c.toNat

/-- Unassigned: general category Cn. -/
def isUnassigned (c : Char) : Bool :=
  inRanges unassignedRanges c.toNat

/-- Has a shape of its own on the page, or is the plain space. -/
def isPrintable (c : Char) : Bool :=
  (0x20 ≤ c.toNat && c.toNat < 0x7F) ||
    !(isControl c || isRareSeparator c || isFormat c || isPrivateUse c || isFiller c ||
      isUnassigned c)

/-! ## Quoting -/

/-- The escape of a character by its code point, in hexadecimal. -/
def codePointEscape (c : Char) : List Char :=
  '\\' :: 'u' :: '\x7b' :: (Nat.toDigits 16 c.toNat ++ ['\x7d'])

/-- What stands for a character between two quotes `quote`. -/
def quotedBody (quote c : Char) : List Char :=
  if c = '\x00' then ['\\', '0']
  else if c = '\t' then ['\\', 't']
  else if c = '\r' then ['\\', 'r']
  else if c = '\n' then ['\\', 'n']
  else if c = '\\' ∨ c = quote then ['\\', c]
  else if joinsPrevious c || !isPrintable c then codePointEscape c
  else [c]

def quotedChar (c : Char) : String :=
  String.ofList ('\'' :: (quotedBody '\'' c ++ ['\'']))

/-- A text between double quotes. -/
def quotedString (s : String) : String :=
  String.ofList ('"' :: (s.toList.flatMap (quotedBody '"') ++ ['"']))

end GridRobot.Text
