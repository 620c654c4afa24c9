import Wobbly.Request

/-! Code points up to `U+10FFFF` and their bytes. Surrogates are ordinary members: they
are what a 16-bit text may hold without its other half. Only a lead followed by a trail
combines, and the result is always a supplementary code point.

A byte form is chosen by its lead byte alone: the lead carries a marker and the highest
payload bits, and every further byte is a continuation with six more. A form may only be
used for values that no shorter form can carry. Scanning reads one code point from the
front of a window; whether a surrogate is welcome there is decided elsewhere. -/
namespace Wobbly

@[ext]
structure CodePoint where
  value : Nat
  bounded : value ≤ 0x10FFFF
  deriving DecidableEq

namespace CodePoint

def ofNat? (value : Nat) : Option CodePoint :=
  if bounded : value ≤ 0x10FFFF then some ⟨value, bounded⟩ else none

def check (value : Nat) : Except OutOfRange CodePoint :=
  match ofNat? value with
  | some point => .ok point
  | none => .error ⟨value⟩

def replacement : CodePoint := ⟨0xFFFD, by decide⟩

def isLead (point : CodePoint) : Bool := decide (0xD800 ≤ point.value ∧ point.value ≤ 0xDBFF)

def isTrail (point : CodePoint) : Bool := decide (0xDC00 ≤ point.value ∧ point.value ≤ 0xDFFF)

def isSurrogate (point : CodePoint) : Bool :=
  decide (0xD800 ≤ point.value ∧ point.value ≤ 0xDFFF)

def combine? (lead trail : CodePoint) : Option CodePoint :=
  if paired : lead.isLead = true ∧ trail.isTrail = true then
    some ⟨0x10000 + (lead.value - 0xD800) * 0x400 + (trail.value - 0xDC00), by
      have first := of_decide_eq_true paired.1
      have second := of_decide_eq_true paired.2
      omega⟩
  else none

theorem char_bounded (char : Char) : char.toNat ≤ 0x10FFFF := by
  have valid : char.toNat < 0xD800 ∨ 0xDFFF < char.toNat ∧ char.toNat < 0x110000 := char.valid
  omega

def ofChar (char : Char) : CodePoint := ⟨char.toNat, char_bounded char⟩

def char? (point : CodePoint) : Option Char :=
  if point.isSurrogate then none else some (Char.ofNat point.value)

def lossyChar (point : CodePoint) : Char := point.char?.getD '\uFFFD'

/-- The usual label, such as `U+0061`: four digits or more. -/
def label (point : CodePoint) : List Char :=
  'U' :: '+' :: Text.Hex.paddedNumeral 4 point.value

theorem surrogate_halves (point : CodePoint) :
    point.isSurrogate = (point.isLead || point.isTrail) := by
  rw [Bool.eq_iff_iff]
  simp only [isSurrogate, isLead, isTrail, Bool.or_eq_true, decide_eq_true_eq]
  omega

theorem lead_not_trail (point : CodePoint) (lead : point.isLead = true) :
    point.isTrail = false := by
  simp only [isLead, isTrail, decide_eq_true_eq, decide_eq_false_iff_not] at *
  omega

end CodePoint

inductive Form where
  | one
  | two
  | three
  | four
  deriving DecidableEq

namespace Form

def width : Form → Nat
  | .one => 1
  | .two => 2
  | .three => 3
  | .four => 4

/-- The lead byte of the payload zero. -/
def marker : Form → Nat
  | .one => 0x00
  | .two => 0xC0
  | .three => 0xE0
  | .four => 0xF0

def payloads : Form → Nat
  | .one => 0x80
  | .two => 0x20
  | .three => 0x10
  | .four => 0x08

def least : Form → Nat
  | .one => 0
  | .two => 0x80
  | .three => 0x800
  | .four => 0x10000

-- Continuation bytes announce no form, nor do the bytes from `F8` on.
def ofLead? (byte : UInt8) : Option Form :=
  if byte.toNat < 0x80 then some .one
  else if byte.toNat < 0xC0 then none
  else if byte.toNat < 0xE0 then some .two
  else if byte.toNat < 0xF0 then some .three
  else if byte.toNat < 0xF8 then some .four
  else none

def ofValue (value : Nat) : Form :=
  if value < 0x80 then .one
  else if value < 0x800 then .two
  else if value < 0x10000 then .three
  else .four

end Form

def isContinuation (byte : UInt8) : Bool := decide (byte.toNat / 0x40 = 2)

namespace CodePoint

def width (point : CodePoint) : Nat := (Form.ofValue point.value).width

/-- A continuation byte with the lowest six bits of `bits`. -/
def tailByte (bits : Nat) : UInt8 := .ofNat (0x80 + bits % 0x40)

def bytes (point : CodePoint) : List UInt8 :=
  let value := point.value
  match Form.ofValue value with
  | .one => [.ofNat value]
  | .two => [.ofNat (0xC0 + value / 0x40), tailByte value]
  | .three => [.ofNat (0xE0 + value / 0x1000), tailByte (value / 0x40), tailByte value]
  | .four =>
    [.ofNat (0xF0 + value / 0x40000), tailByte (value / 0x1000), tailByte (value / 0x40),
      tailByte value]

end CodePoint

structure Scanned where
  point : CodePoint
  width : Nat
  deriving DecidableEq

namespace Scan

/-- Adds the payload of `count` continuation bytes below the bits in `high`. -/
def extend? (high : Nat) : Nat → List UInt8 → Option Nat
  | 0, _ => some high
  | _ + 1, [] => none
  | count + 1, byte :: rest =>
    if isContinuation byte then extend? (high * 0x40 + byte.toNat % 0x40) count rest else none

def front? : List UInt8 → Option Scanned
  | [] => none
  | lead :: rest =>
    match Form.ofLead? lead with
    | none => none
    | some form =>
      match extend? (lead.toNat % form.payloads) (form.width - 1) rest with
      | none => none
      | some value =>
        if value < form.least then none
        else (CodePoint.ofNat? value).map fun point => ⟨point, form.width⟩

def at? (window : List UInt8) (position : Nat) : Option Scanned := front? (window.drop position)

end Scan
end Wobbly
