import Wobbly.Text.Characters

/-! Numbers and bytes as digits. Hex numerals are written most significant digit first
and without leading zeros, so zero itself is a single digit; a digit is read in either
case. Decimal numerals have an upper limit, and one plus sign may stand in front.

Bytes are written as hex text, two lower-case digits for each. Reading ignores blanks
anywhere, also between the two digits of a byte. What is left is judged byte by byte in
its UTF-8 form: first the count, then the digits from the left. -/
namespace Wobbly.Text

namespace Hex

def lowerDigit (half : Nat) : Char := Nat.digitChar half

def upperDigit (half : Nat) : Char := (Nat.digitChar half).toUpper

def digitValue? (digit : Char) : Option Nat :=
  if '0' ≤ digit ∧ digit ≤ '9' then some (digit.toNat - 48)
  else if 'a' ≤ digit ∧ digit ≤ 'f' then some (digit.toNat - 87)
  else if 'A' ≤ digit ∧ digit ≤ 'F' then some (digit.toNat - 55)
  else none

def numeral (value : Nat) : List Char := (Nat.toDigits 16 value).map Char.toUpper

def paddedNumeral (width value : Nat) : List Char :=
  let digits := numeral value
  List.replicate (width - digits.length) '0' ++ digits

def valueFrom? (high : Nat) : List Char → Option Nat
  | [] => some high
  | digit :: rest =>
    match digitValue? digit with
    | some low => valueFrom? (high * 16 + low) rest
    | none => none

def value? (digits : List Char) : Option Nat := valueFrom? 0 digits

end Hex

inductive NumeralError where
  | empty
  | invalidDigit
  | tooLarge
  deriving DecidableEq

def NumeralError.message : NumeralError → String
  | .empty => "cannot parse integer from empty string"
  | .invalidDigit => "invalid digit found in string"
  | .tooLarge => "number too large to fit in target type"

namespace Numeral

-- The first character that is no digit or takes the number over the limit decides the error.
def digits (limit high : Nat) : List Char → Except NumeralError Nat
  | [] => .ok high
  | digit :: rest =>
    if digit.isDigit then
      let next := high * 10 + (digit.toNat - '0'.toNat)
      if limit < next then .error .tooLarge else digits limit next rest
    else .error .invalidDigit

def read (limit : Nat) (text : List Char) : Except NumeralError Nat :=
  match text with
  | [] => .error .empty
  | ['+'] => .error .invalidDigit
  | '+' :: rest => digits limit 0 rest
  | rest => digits limit 0 rest

def wordLimit : Nat := 0xFFFFFFFFFFFFFFFF

end Numeral

namespace HexText

inductive ReadError where
  | oddLength
  | invalidDigit (byte : UInt8) (position : Nat)
  deriving DecidableEq

def ReadError.message : ReadError → String
  | .oddLength => "Odd number of digits"
  | .invalidDigit byte position =>
    s!"Invalid character {Quoted.char (.ofNat byte.toNat)} at position {position}"

def pair (byte : UInt8) : List Char :=
  [Hex.lowerDigit (byte.toNat / 16), Hex.lowerDigit (byte.toNat % 16)]

def write (bytes : List UInt8) : String := .ofList (bytes.flatMap pair)

/-- The UTF-8 bytes of a text without its blanks. -/
def solid (text : List Char) : List UInt8 :=
  (text.filter fun char => !isBlank char).flatMap String.utf8EncodeChar

def half (position : Nat) (byte : UInt8) : Except ReadError Nat :=
  match Hex.digitValue? (Char.ofNat byte.toNat) with
  | some value => .ok value
  | none => .error (.invalidDigit byte position)

-- `position` counts the digits in front of the given ones.
def joinPairs (position : Nat) : List UInt8 → Except ReadError (List UInt8)
  | [] => .ok []
  | [_] => .error .oddLength
  | first :: second :: rest =>
    match half position first, half (position + 1) second with
    | .error error, _ => .error error
    | .ok _, .error error => .error error
    | .ok high, .ok low =>
      (joinPairs (position + 2) rest).map fun bytes => .ofNat (16 * high + low) :: bytes

def read (text : String) : Except ReadError (List UInt8) :=
  let digits := solid text.toList
  if digits.length % 2 = 0 then joinPairs 0 digits else .error .oddLength

theorem lowerDigit_row : (List.range 16).map Hex.lowerDigit =
    ['0', '1', '2', '3', '4', '5', '6', '7', '8', '9', 'a', 'b', 'c', 'd', 'e', 'f'] := by decide

/-- A byte is written as two digits of the lower-case row, the one that counts
sixteens first. -/
theorem pair_spells (byte : UInt8) :
    ∃ high low, pair byte = [Hex.lowerDigit high, Hex.lowerDigit low] ∧
      high < 16 ∧ low < 16 ∧ byte.toNat = 16 * high + low := by
  have small := byte.toNat_lt
  exact ⟨byte.toNat / 16, byte.toNat % 16, rfl, by omega, by omega, by omega⟩

theorem pairs_length (bytes : List UInt8) : (bytes.flatMap pair).length = 2 * bytes.length := by
  induction bytes with
  | nil => rfl
  | cons byte rest ih =>
      rw [List.flatMap_cons, List.length_append, ih, List.length_cons]
      change 2 + _ = _
      omega

theorem write_length (bytes : List UInt8) : (write bytes).length = 2 * bytes.length := by
  rw [write, String.length_ofList, pairs_length]

/-- Digits are judged from the left: what stands in front is joined first, and its
error is the error, whatever follows. -/
theorem joinPairs_append (position : Nat) (front rest : List UInt8)
    (even : front.length % 2 = 0) :
    joinPairs position (front ++ rest) =
      (joinPairs position front).bind fun bytes =>
        (joinPairs (position + front.length) rest).map (bytes ++ ·) := by
  fun_induction joinPairs position front with
  | case1 position =>
      change joinPairs position rest = (joinPairs position rest).map id
      cases joinPairs position rest <;> rfl
  | case2 position last => cases even
  | case3 position first second front error failed =>
      simp only [List.cons_append, joinPairs, failed]
      rfl
  | case4 position first second front high error failed read =>
      simp only [List.cons_append, joinPairs, read, failed]
      rfl
  | case5 position first second front high low readLow readHigh ih =>
      have fewer : front.length % 2 = 0 := by
        rw [List.length_cons, List.length_cons] at even
        omega
      have place : position + (first :: second :: front).length =
          position + 2 + front.length := by
        rw [List.length_cons, List.length_cons]
        omega
      simp only [List.cons_append, joinPairs, readHigh, readLow, ih fewer, place]
      cases joinPairs (position + 2) front with
      | error error => rfl
      | ok bytes => cases joinPairs (position + 2 + front.length) rest <;> rfl

theorem half_error (position : Nat) (byte : UInt8) (error : ReadError)
    (failed : half position byte = .error error) : error = .invalidDigit byte position := by
  unfold half at failed
  split at failed
  · cases failed
  · cases failed
    rfl

theorem joinPairs_even (position : Nat) (digits : List UInt8) (even : digits.length % 2 = 0) :
    joinPairs position digits ≠ .error .oddLength := by
  fun_induction joinPairs position digits with
  | case1 => nofun
  | case2 position last => cases even
  | case3 position first second rest error failed =>
      rw [half_error position first error failed]
      nofun
  | case4 position first second rest high error failed read =>
      rw [half_error (position + 1) second error failed]
      nofun
  | case5 position first second rest high low readLow readHigh ih =>
      have fewer : rest.length % 2 = 0 := by
        rw [List.length_cons, List.length_cons] at even
        omega
      cases joined : joinPairs (position + 2) rest with
      | ok bytes => nofun
      | error error =>
          intro odd
          cases odd
          exact ih fewer joined

/-- The count comes first: an odd one is blamed before any digit is looked at, and an
even one never. -/
theorem read_oddLength_iff (text : String) :
    read text = .error .oddLength ↔ (solid text.toList).length % 2 = 1 := by
  by_cases even : (solid text.toList).length % 2 = 0
  · have judged : read text = joinPairs 0 (solid text.toList) := if_pos even
    rw [judged]
    exact iff_of_false (joinPairs_even 0 _ even) (by omega)
  · exact iff_of_true (if_neg even) (by omega)

end HexText
end Wobbly.Text
