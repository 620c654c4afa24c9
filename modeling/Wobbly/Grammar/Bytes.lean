import Wobbly.CodePoint

/-! The grammar of encoded text, stated by byte ranges alone. A text is a row of units,
and the value of a unit is the row of its payload bits. The only rule across units is
that the unit of a lead is never followed by that of a trail, since the two together have
a unit of their own.

Damaged bytes are read position by position. What a position contributes to the text
depends on the bytes around it and on nothing that was read before: the code point that
starts there, nothing inside a code point that starts earlier, and one replacement
character anywhere else. -/
namespace Wobbly.Grammar

def IsTail (byte : UInt8) : Prop := 0x80 ≤ byte.toNat ∧ byte.toNat ≤ 0xBF

instance (byte : UInt8) : Decidable (IsTail byte) :=
  inferInstanceAs (Decidable (0x80 ≤ byte.toNat ∧ byte.toNat ≤ 0xBF))

inductive ByteUnit : List UInt8 → Prop where
  | ascii {a : UInt8} (first : a.toNat ≤ 0x7F) : ByteUnit [a]
  | two {a b : UInt8} (first : 0xC2 ≤ a.toNat ∧ a.toNat ≤ 0xDF) (tail : IsTail b) :
      ByteUnit [a, b]
  | threeLow {b c : UInt8} (second : 0xA0 ≤ b.toNat ∧ b.toNat ≤ 0xBF) (tail : IsTail c) :
      ByteUnit [0xE0, b, c]
  | three {a b c : UInt8} (first : 0xE1 ≤ a.toNat ∧ a.toNat ≤ 0xEF) (second : IsTail b)
      (tail : IsTail c) : ByteUnit [a, b, c]
  | fourLow {b c d : UInt8} (second : 0x90 ≤ b.toNat ∧ b.toNat ≤ 0xBF) (third : IsTail c)
      (tail : IsTail d) : ByteUnit [0xF0, b, c, d]
  | four {a b c d : UInt8} (first : 0xF1 ≤ a.toNat ∧ a.toNat ≤ 0xF3) (second : IsTail b)
      (third : IsTail c) (tail : IsTail d) : ByteUnit [a, b, c, d]
  | fourHigh {b c d : UInt8} (second : 0x80 ≤ b.toNat ∧ b.toNat ≤ 0x8F) (third : IsTail c)
      (tail : IsTail d) : ByteUnit [0xF4, b, c, d]

/-- The payload bits of a unit, the lead's first. -/
def payload : List UInt8 → Nat
  | [a] => a.toNat
  | [a, b] => a.toNat % 0x20 * 0x40 + b.toNat % 0x40
  | [a, b, c] => (a.toNat % 0x10 * 0x40 + b.toNat % 0x40) * 0x40 + c.toNat % 0x40
  | [a, b, c, d] =>
    ((a.toNat % 0x08 * 0x40 + b.toNat % 0x40) * 0x40 + c.toNat % 0x40) * 0x40 + d.toNat % 0x40
  | _ => 0

def LeadUnit (unit : List UInt8) : Prop :=
  ∃ b c : UInt8, unit = [0xED, b, c] ∧ 0xA0 ≤ b.toNat ∧ b.toNat ≤ 0xAF

def TrailUnit (unit : List UInt8) : Prop :=
  ∃ b c : UInt8, unit = [0xED, b, c] ∧ 0xB0 ≤ b.toNat ∧ b.toNat ≤ 0xBF

/-- No pair is written as two units. -/
def PairsJoined : List (List UInt8) → Prop
  | [] => True
  | [_] => True
  | first :: second :: rest => ¬(LeadUnit first ∧ TrailUnit second) ∧ PairsJoined (second :: rest)

/-- The bytes fall into the given units, and no pair is written as two of them. -/
def Division (bytes : List UInt8) (units : List (List UInt8)) : Prop :=
  (∀ unit ∈ units, ByteUnit unit) ∧ PairsJoined units ∧ bytes = units.flatten

-- Text without surrogates, one row for each kind of sequence.
def textRows : List (List (Nat × Nat)) :=
  [[(0x00, 0x7F)],
    [(0xC2, 0xDF), (0x80, 0xBF)],
    [(0xE0, 0xE0), (0xA0, 0xBF), (0x80, 0xBF)],
    [(0xE1, 0xEC), (0x80, 0xBF), (0x80, 0xBF)],
    [(0xED, 0xED), (0x80, 0x9F), (0x80, 0xBF)],
    [(0xEE, 0xEF), (0x80, 0xBF), (0x80, 0xBF)],
    [(0xF0, 0xF0), (0x90, 0xBF), (0x80, 0xBF), (0x80, 0xBF)],
    [(0xF1, 0xF3), (0x80, 0xBF), (0x80, 0xBF), (0x80, 0xBF)],
    [(0xF4, 0xF4), (0x80, 0x8F), (0x80, 0xBF), (0x80, 0xBF)]]

def InRow : List (Nat × Nat) → List UInt8 → Prop
  | [], [] => True
  | range :: row, byte :: bytes =>
    (range.1 ≤ byte.toNat ∧ byte.toNat ≤ range.2) ∧ InRow row bytes
  | _, _ => False

def TextUnit (unit : List UInt8) : Prop := ∃ row ∈ textRows, InRow row unit

def scalarAt? (window : List UInt8) (position : Nat) : Option Scanned :=
  (Scan.at? window position).filter fun found => !found.point.isSurrogate

def covered (window : List UInt8) (position : Nat) : Bool :=
  (List.range position).any fun earlier =>
    match scalarAt? window earlier with
    | some found => decide (position < earlier + found.width)
    | none => false

def contribution (window : List UInt8) (position : Nat) : List CodePoint :=
  match scalarAt? window position with
  | some found => [found.point]
  | none => if covered window position then [] else [.replacement]

def positional (window : List UInt8) : List CodePoint :=
  (List.range window.length).flatMap (contribution window)

/-- The UTF-8 form of a character stands at a position, whole inside the window. -/
def Spelled (window : List UInt8) (position : Nat) (char : Char) : Prop :=
  String.utf8EncodeChar char <+: window.drop position

def Inside (window : List UInt8) (position : Nat) : Prop :=
  ∃ earlier char, Spelled window earlier char ∧ earlier < position ∧
    position < earlier + (String.utf8EncodeChar char).length

end Wobbly.Grammar
