import Mathlib
import Wobbly.Grammar.Texts

/-! Hexadecimal digits and what is written with them. The ranges that a reader
tests are the rows of the digit table, and adding digits from the left gives the
number that their places stand for. No digit is blank or longer than one byte, so
bytes are read back as they were written, two digits each. -/
namespace Wobbly.Text
open Grammar

namespace Hex

theorem digitValue_ascii (char : Char) (value : Nat) (read : digitValue? char = some value) :
    char.toNat < 0x80 := by
  unfold digitValue? at read
  split at read
  · next decimal =>
    have last : char.toNat ≤ 57 := decimal.2
    omega
  split at read
  · next lower =>
    have last : char.toNat ≤ 102 := lower.2
    omega
  split at read
  · next upper =>
    have last : char.toNat ≤ 70 := upper.2
    omega
  · cases read

theorem lookup_mem (char : Char) (value : Nat) (listed : hexDigits.lookup char = some value) :
    (char, value) ∈ hexDigits := by
  obtain ⟨before, after, row, _⟩ := List.lookup_eq_some_iff.mp listed
  rw [row]
  exact List.mem_append_right before List.mem_cons_self

theorem hexDigits_ascii : ∀ entry ∈ hexDigits, entry.1.toNat < 0x80 := by decide

theorem digitValue_table (char : Char) : digitValue? char = hexDigits.lookup char := by
  by_cases ascii : char.toNat < 0x80
  · -- Outside ASCII neither has a value, and inside there are few enough to compare.
    have rows : ∀ code < 0x80,
        digitValue? (Char.ofNat code) = hexDigits.lookup (Char.ofNat code) := by decide
    rw [← Char.ofNat_toNat char]
    exact rows char.toNat ascii
  · cases read : digitValue? char with
    | some value => exact absurd (digitValue_ascii char value read) ascii
    | none =>
        cases listed : hexDigits.lookup char with
        | some value => exact absurd (hexDigits_ascii _ (lookup_mem char value listed)) ascii
        | none => rfl

theorem digitValue_digit (digit : Char) (hex : HexDigit digit) :
    digitValue? digit = some (digitWorth digit) := by
  obtain ⟨value, listed⟩ := Option.isSome_iff_exists.mp hex
  rw [digitValue_table, digitWorth, listed]
  rfl

theorem digitValue_other (char : Char) (other : ¬HexDigit char) : digitValue? char = none := by
  rw [digitValue_table]
  exact Option.not_isSome_iff_eq_none.mp other

theorem number_cons (digit : Char) (rest : List Char) :
    number (digit :: rest) = digitWorth digit * 16 ^ rest.length + number rest := by
  rw [number, List.map_cons, List.reverse_cons, Nat.ofDigits_append, Nat.ofDigits_singleton,
    List.length_reverse, List.length_map, Nat.add_comm, Nat.mul_comm]
  rfl

theorem valueFrom_number (high : Nat) (digits : List Char)
    (hex : ∀ digit ∈ digits, HexDigit digit) :
    valueFrom? high digits = some (high * 16 ^ digits.length + number digits) := by
  induction digits generalizing high with
  | nil => simp [valueFrom?, number]
  | cons digit rest ih =>
      obtain ⟨first, later⟩ := List.forall_mem_cons.mp hex
      rw [valueFrom?, digitValue_digit digit first]
      simp only [ih _ later, number_cons, List.length_cons]
      exact congrArg some (by ring)

theorem valueFrom_other (high : Nat) (digits : List Char)
    (other : ∃ digit ∈ digits, ¬HexDigit digit) : valueFrom? high digits = none := by
  induction digits generalizing high with
  | nil => simp at other
  | cons digit rest ih =>
      rw [valueFrom?]
      by_cases first : HexDigit digit
      · rw [digitValue_digit digit first]
        apply ih
        obtain ⟨later, member, bad⟩ := other
        rcases List.mem_cons.mp member with rfl | behind
        · exact absurd first bad
        · exact ⟨later, behind, bad⟩
      · rw [digitValue_other digit first]

theorem value_number (digits : List Char) (hex : ∀ digit ∈ digits, HexDigit digit) :
    value? digits = some (number digits) := by
  rw [value?, valueFrom_number 0 digits hex, Nat.zero_mul, Nat.zero_add]

theorem lowerDigit_listed : ∀ half < 16, hexDigits.lookup (lowerDigit half) = some half := by
  decide

theorem lowerDigit_hex (half : Nat) (small : half < 16) : HexDigit (lowerDigit half) := by
  rw [HexDigit, lowerDigit_listed half small]
  rfl

theorem lowerDigit_worth (half : Nat) (small : half < 16) :
    digitWorth (lowerDigit half) = half := by
  rw [digitWorth, lowerDigit_listed half small]
  rfl

end Hex

namespace HexText
open Hex

def asciiByte (char : Char) : UInt8 := .ofNat char.toNat

theorem hexDigits_solid : ∀ entry ∈ hexDigits, isBlank entry.1 = false ∧
    String.utf8EncodeChar entry.1 = [asciiByte entry.1] ∧
      Char.ofNat (asciiByte entry.1).toNat = entry.1 := by decide

theorem digit_solid (digit : Char) (hex : HexDigit digit) : isBlank digit = false ∧
    String.utf8EncodeChar digit = [asciiByte digit] ∧
      Char.ofNat (asciiByte digit).toNat = digit := by
  obtain ⟨value, listed⟩ := Option.isSome_iff_exists.mp hex
  exact hexDigits_solid _ (lookup_mem digit value listed)

theorem solid_digits (digits : List Char) (hex : ∀ digit ∈ digits, HexDigit digit) :
    solid digits = digits.map asciiByte := by
  induction digits with
  | nil => rfl
  | cons digit rest ih =>
      obtain ⟨first, later⟩ := List.forall_mem_cons.mp hex
      obtain ⟨full, single, _⟩ := digit_solid digit first
      have step : solid (digit :: rest) = String.utf8EncodeChar digit ++ solid rest := by
        simp [solid, full]
      rw [step, single, ih later]
      rfl

theorem half_digit (position : Nat) (digit : Char) (hex : HexDigit digit) :
    half position (asciiByte digit) = .ok (digitWorth digit) := by
  rw [half, (digit_solid digit hex).2.2, digitValue_digit digit hex]

theorem pair_hex (byte : UInt8) : ∀ digit ∈ pair byte, HexDigit digit := by
  obtain ⟨high, low, spelled, highSmall, lowSmall, _⟩ := pair_spells byte
  rw [spelled]
  exact List.forall_mem_cons.mpr ⟨lowerDigit_hex high highSmall,
    List.forall_mem_singleton.mpr (lowerDigit_hex low lowSmall)⟩

theorem joinPairs_pair (position : Nat) (byte : UInt8) :
    joinPairs position ((pair byte).map asciiByte) = .ok [byte] := by
  obtain ⟨high, low, spelled, highSmall, lowSmall, worth⟩ := pair_spells byte
  have whole : UInt8.ofNat (16 * high + low) = byte := by rw [← worth, UInt8.ofNat_toNat]
  simp only [spelled, List.map_cons, List.map_nil, joinPairs,
    half_digit _ _ (lowerDigit_hex _ highSmall), half_digit _ _ (lowerDigit_hex _ lowSmall),
    lowerDigit_worth _ highSmall, lowerDigit_worth _ lowSmall, whole]
  rfl

theorem joinPairs_written (position : Nat) (bytes : List UInt8) :
    joinPairs position ((bytes.flatMap pair).map asciiByte) = .ok bytes := by
  induction bytes generalizing position with
  | nil => rfl
  | cons byte rest ih =>
      have even : ((pair byte).map asciiByte).length % 2 = 0 := by simp [pair]
      rw [List.flatMap_cons, List.map_append, joinPairs_append _ _ _ even, joinPairs_pair, ih]
      rfl

/-- Bytes are read back from what is written for them. -/
theorem read_write (bytes : List UInt8) : read (write bytes) = .ok bytes := by
  have hex : ∀ digit ∈ bytes.flatMap pair, HexDigit digit := by
    intro digit member
    obtain ⟨byte, _, inside⟩ := List.mem_flatMap.mp member
    exact pair_hex byte digit inside
  have even : ((bytes.flatMap pair).map asciiByte).length % 2 = 0 := by
    rw [List.length_map, pairs_length, Nat.mul_mod_right]
  rw [read, write, String.toList_ofList, solid_digits _ hex, if_pos even, joinPairs_written]

end HexText
end Wobbly.Text
