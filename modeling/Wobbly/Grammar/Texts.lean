import Mathlib.Data.Nat.Digits.Defs
import Wobbly.Text.Escape

/-! The grammars of hex text and of escaped text. A hex digit has its value from a table,
and the last digit of a numeral counts ones, the one before it sixteens, and so on, so
leading zeros change nothing.

In hex text every byte is spelled by two digits of either case. Blanks may stand
anywhere; what is left without them is judged in its bytes, and the first byte that is
no digit is blamed. An escaped text is a row of literal stretches with an escape between
neighbours: no escape opens inside a stretch, and between the braces of an escape stand
hex digits that spell a code point. A text outside the grammar is blamed for the first
opener that opens no escape. -/
namespace Wobbly.Grammar
open Text

def hexDigits : List (Char × Nat) :=
  [('0', 0), ('1', 1), ('2', 2), ('3', 3), ('4', 4), ('5', 5), ('6', 6), ('7', 7), ('8', 8),
    ('9', 9), ('a', 10), ('b', 11), ('c', 12), ('d', 13), ('e', 14), ('f', 15),
    ('A', 10), ('B', 11), ('C', 12), ('D', 13), ('E', 14), ('F', 15)]

def HexDigit (char : Char) : Prop := (hexDigits.lookup char).isSome = true

instance (char : Char) : Decidable (HexDigit char) :=
  inferInstanceAs (Decidable ((hexDigits.lookup char).isSome = true))

def digitWorth (char : Char) : Nat := (hexDigits.lookup char).getD 0

def number (digits : List Char) : Nat := Nat.ofDigits 16 (digits.map digitWorth).reverse

/-- The digits spell the bytes, two for each of them. -/
inductive HexRow : List UInt8 → List Char → Prop where
  | nil : HexRow [] []
  | cons {byte : UInt8} {bytes : List UInt8} {high low : Char} {digits : List Char}
      (first : HexDigit high) (second : HexDigit low) (worth : byte.toNat = number [high, low])
      (rest : HexRow bytes digits) : HexRow (byte :: bytes) (high :: low :: digits)

/-- A text with blanks put in at any places. -/
inductive Spread : List Char → List Char → Prop where
  | nil : Spread [] []
  | char (char : Char) {chars text : List Char} (rest : Spread chars text) :
      Spread (char :: chars) (char :: text)
  | blank {char : Char} {chars text : List Char} (blank : Text.isBlank char = true)
      (rest : Spread chars text) : Spread chars (char :: text)

def unblanked (text : String) : List Char := text.toList.filter fun char => !Text.isBlank char

def byteChar (byte : UInt8) : Char := .ofNat byte.toNat

/-- The byte stands at the position and is the first that is no digit. -/
structure FirstOther (bytes : List UInt8) (byte : UInt8) (position : Nat) : Prop where
  other : ¬HexDigit (byteChar byte)
  place : ∃ before after, bytes = before ++ byte :: after ∧ before.length = position ∧
    ∀ digit ∈ before, HexDigit (byteChar digit)

/-- A stretch of text in which no escape opens. -/
@[ext]
structure Literal where
  chars : List Char
  unopened : ¬Escape.opener <:+: chars

def Literal.points (literal : Literal) : List CodePoint := literal.chars.map .ofChar

@[ext]
structure Spelling where
  digits : List Char
  nonempty : digits ≠ []
  hex : ∀ digit ∈ digits, HexDigit digit
  bounded : number digits ≤ 0x10FFFF

namespace Spelling

def point (spelling : Spelling) : CodePoint := ⟨number spelling.digits, spelling.bounded⟩

def body (spelling : Spelling) : List Char := spelling.digits ++ [Escape.closer]

end Spelling

inductive Escaped where
  | plain (last : Literal)
  | escape (before : Literal) (spelling : Spelling) (behind : Escaped)

namespace Escaped

def chars : Escaped → List Char
  | .plain last => last.chars
  | .escape before spelling behind =>
    before.chars ++ (Escape.opener ++ (spelling.body ++ behind.chars))

def points : Escaped → List CodePoint
  | .plain last => last.points
  | .escape before spelling behind => before.points ++ spelling.point :: behind.points

end Escaped

def Opens (rest : List Char) : Prop := ∃ spelling : Spelling, spelling.body <+: rest

inductive Faulty (digits : List Char) : EscapeError → Prop where
  | invalid (bad : digits = [] ∨ (∃ digit ∈ digits, ¬HexDigit digit) ∨
      0x100000000 ≤ number digits) : Faulty digits (.invalidDigits (.ofList digits))
  | beyond (nonempty : digits ≠ []) (hex : ∀ digit ∈ digits, HexDigit digit)
      (small : number digits < 0x100000000) (large : 0x10FFFF < number digits) :
      Faulty digits (.outOfRange ⟨number digits⟩)

inductive Blamed (offset : Nat) (rest : List Char) : EscapeError → Prop where
  | unclosed (endless : Escape.closer ∉ rest) : Blamed offset rest (.unterminated offset)
  | closed {digits after : List Char} {error : EscapeError}
      (cut : rest = digits ++ Escape.closer :: after) (first : Escape.closer ∉ digits)
      (faulty : Faulty digits error) : Blamed offset rest error

end Wobbly.Grammar
