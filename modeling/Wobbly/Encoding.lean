import Wobbly.CodePoint

/-! Sequences of code points and their encoding. A sequence may hold both halves of a
pair as two members. Grouping joins them from the left, never takes a member twice, and
keeps for every group the position of its first member. The same pairs are found among
16-bit units: splitting writes a supplementary code point as its two halves, and joining
takes a lead with the trail right after it as one code point, so no list of units is
refused.

Pairs are joined before anything is encoded, so the bytes never hold the two halves of a
pair side by side. What is still a surrogate then is unpaired: it takes the three-byte
form, is refused, or is replaced. -/
namespace Wobbly

namespace Sequence

/-- Groups with the position of their first member, counted from `position`. -/
def groupsFrom (position : Nat) : List CodePoint → List (Nat × CodePoint)
  | [] => []
  | [last] => [(position, last)]
  | first :: second :: rest =>
    match first.combine? second with
    | some whole => (position, whole) :: groupsFrom (position + 2) rest
    | none => (position, first) :: groupsFrom (position + 1) (second :: rest)

def groups (points : List CodePoint) : List (Nat × CodePoint) := groupsFrom 0 points

def grouped (points : List CodePoint) : List CodePoint := (groups points).map Prod.snd

def hasSurrogate (points : List CodePoint) : Bool := points.any CodePoint.isSurrogate

def ofText (text : String) : List CodePoint := text.toList.map CodePoint.ofChar

def lossyText (points : List CodePoint) : String := .ofList (points.map CodePoint.lossyChar)

def labelled : List CodePoint → List Char
  | [] => []
  | [last] => last.label
  | first :: rest => first.label ++ ' ' :: labelled rest

end Sequence

namespace Units

def point (unit : UInt16) : CodePoint :=
  ⟨unit.toNat, by have := unit.toNat_lt; omega⟩

def halves (point : CodePoint) : List UInt16 :=
  if point.value < 0x10000 then [.ofNat point.value]
  else
    [.ofNat (0xD800 + (point.value - 0x10000) / 0x400),
      .ofNat (0xDC00 + (point.value - 0x10000) % 0x400)]

def split (points : List CodePoint) : List UInt16 := points.flatMap halves

def join : List UInt16 → List CodePoint
  | [] => []
  | [last] => [point last]
  | first :: second :: rest =>
    match (point first).combine? (point second) with
    | some whole => whole :: join rest
    | none => point first :: join (second :: rest)

def normalize (points : List CodePoint) : List CodePoint := join (split points)

end Units

namespace Encoding

def encode (points : List CodePoint) : List UInt8 :=
  (Sequence.grouped points).flatMap CodePoint.bytes

def encodedLength (points : List CodePoint) : Nat :=
  (Sequence.grouped points).foldr (fun point total => point.width + total) 0

def letThrough (policy : Policy) (position : Nat) (point : CodePoint) :
    Except EncodeError CodePoint :=
  if point.isSurrogate then
    match policy with
    | .accept => .ok point
    | .reject => .error (.unpairedSurrogate position)
    | .replace => .ok .replacement
  else .ok point

def encodeGroups (policy : Policy) : List (Nat × CodePoint) → Except EncodeError (List UInt8)
  | [] => .ok []
  | (position, point) :: rest =>
    match letThrough policy position point with
    | .error unpaired => .error unpaired
    | .ok written => (encodeGroups policy rest).map fun bytes => written.bytes ++ bytes

/-- Encodes under a policy; a refusal names the position in the given sequence. -/
def encodeUnder (policy : Policy) (points : List CodePoint) : Except EncodeError (List UInt8) :=
  encodeGroups policy (Sequence.groups points)

end Encoding
end Wobbly
