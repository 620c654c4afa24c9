import Wobbly.Proofs.HexTexts
import Wobbly.Proofs.StrictText

/-! Hex text with blanks. Blanks are taken out as characters, while the count and
the digits of what is left are judged as bytes. The two views agree on hex digits,
which are the only characters whose forms consist of digit bytes: a form that begins
with the byte of a digit is the whole form of that digit. A text is therefore read
exactly if its other characters spell bytes, and blamed for its first byte that is
no digit once their number is even. -/
namespace Wobbly.Text.HexText
open Grammar Hex

theorem hexRow_length (bytes : List UInt8) (digits : List Char) (row : HexRow bytes digits) :
    digits.length = 2 * bytes.length := by
  induction row with
  | nil => rfl
  | cons _ _ _ _ ih =>
      rw [List.length_cons, List.length_cons, List.length_cons, ih]
      omega

theorem hexRow_hex (bytes : List UInt8) (digits : List Char) (row : HexRow bytes digits) :
    ∀ digit ∈ digits, HexDigit digit := by
  induction row with
  | nil => simp
  | cons first second _ _ ih =>
      exact List.forall_mem_cons.mpr ⟨first, List.forall_mem_cons.mpr ⟨second, ih⟩⟩

theorem hexRow_unique (bytes others : List UInt8) (digits : List Char)
    (row : HexRow bytes digits) (other : HexRow others digits) : bytes = others := by
  induction row generalizing others with
  | nil =>
      cases other
      rfl
  | cons _ _ worth _ ih =>
      cases other with
      | cons _ _ same rest =>
          rw [ih _ rest, UInt8.toNat_inj.mp (worth.trans same.symm)]

theorem digitWorth_lt (char : Char) : digitWorth char < 16 := by
  have listed : ∀ entry ∈ hexDigits, entry.2 < 16 := by decide
  unfold digitWorth
  cases found : hexDigits.lookup char with
  | none => decide
  | some value => exact listed _ (lookup_mem char value found)

theorem number_pair (high low : Char) :
    number [high, low] = 16 * digitWorth high + digitWorth low := by
  rw [number_cons, number_cons]
  simp [number, Nat.mul_comm]

theorem joined_worth (high low : Char) :
    (UInt8.ofNat (16 * digitWorth high + digitWorth low)).toNat = number [high, low] := by
  have first := digitWorth_lt high
  have second := digitWorth_lt low
  have small : 16 * digitWorth high + digitWorth low < 2 ^ 8 := by omega
  rw [number_pair]
  exact UInt8.toNat_ofNat_of_lt small

theorem asciiByte_byteChar (byte : UInt8) : asciiByte (byteChar byte) = byte := by
  have small := byte.toNat_lt
  have valid : byte.toNat.isValidChar := Or.inl (by omega)
  have same : (byteChar byte).toNat = byte.toNat := by
    rw [byteChar, Char.ofNat, dif_pos valid]
    rfl
  rw [asciiByte, same, UInt8.ofNat_toNat]

theorem half_byte (position : Nat) (byte : UInt8) (hex : HexDigit (byteChar byte)) :
    half position byte = .ok (digitWorth (byteChar byte)) := by
  have digit := half_digit position (byteChar byte) hex
  rwa [asciiByte_byteChar] at digit

theorem half_other (position : Nat) (byte : UInt8) (other : ¬HexDigit (byteChar byte)) :
    half position byte = .error (.invalidDigit byte position) := by
  have none : digitValue? (Char.ofNat byte.toNat) = none := digitValue_other _ other
  rw [half, none]

theorem firstOther_unique (left : List UInt8) (byte another : UInt8) (position place : Nat)
    (one : FirstOther left byte position) (two : FirstOther left another place) :
    byte = another ∧ position = place := by
  obtain ⟨other, before, after, row, rfl, hex⟩ := one
  obtain ⟨otherToo, front, behind, same, rfl, hexToo⟩ := two
  rw [row] at same
  -- If one of the two stood earlier, it would be among the digits before the other.
  rcases List.append_eq_append_iff.mp same with ⟨between, rfl, cut⟩ | ⟨between, rfl, cut⟩
  · cases between with
    | nil =>
        cases cut
        simp
    | cons digit rest =>
        cases cut
        exact absurd (hexToo byte (by simp)) other
  · cases between with
    | nil =>
        cases cut
        simp
    | cons digit rest =>
        cases cut
        exact absurd (hex another (by simp)) otherToo

/-- An even number of bytes is joined if all are digits, and else blamed for the
first that is none. -/
theorem joinPairs_cases (position : Nat) (left : List UInt8) (even : left.length % 2 = 0) :
    (∃ bytes, joinPairs position left = .ok bytes ∧ HexRow bytes (left.map byteChar)) ∨
      ∃ byte place, joinPairs position left = .error (.invalidDigit byte (position + place)) ∧
        FirstOther left byte place := by
  induction left using List.twoStepInduction generalizing position with
  | nil => exact Or.inl ⟨[], rfl, .nil⟩
  | singleton byte => simp at even
  | cons_cons first second rest ih _ =>
      by_cases high : HexDigit (byteChar first)
      · by_cases low : HexDigit (byteChar second)
        · have worth := joined_worth (byteChar first) (byteChar second)
          have fewer : rest.length % 2 = 0 := by
            rw [List.length_cons, List.length_cons] at even
            omega
          rcases ih (position + 2) fewer with
            ⟨bytes, joined, row⟩ | ⟨byte, place, blamed, other, before, after, cut, rfl, hex⟩
          · refine Or.inl ⟨_ :: bytes, ?_, .cons high low worth row⟩
            simp only [joinPairs, half_byte _ _ high, half_byte _ _ low, joined]
            rfl
          · refine Or.inr ⟨byte, before.length + 2, ?_, other, first :: second :: before, after,
              ?_, rfl, ?_⟩
            · simp only [joinPairs, half_byte _ _ high, half_byte _ _ low, blamed]
              rw [Nat.add_assoc, Nat.add_comm 2]
              rfl
            · rw [cut]
              rfl
            · exact List.forall_mem_cons.mpr ⟨high, List.forall_mem_cons.mpr ⟨low, hex⟩⟩
        · refine Or.inr ⟨second, 1, ?_, low, [first], rest, rfl, rfl, by simpa using high⟩
          simp only [joinPairs, half_byte _ _ high, half_other _ _ low]
      · refine Or.inr ⟨first, 0, ?_, high, [], second :: rest, rfl, rfl, by simp⟩
        simp only [joinPairs, half_other _ _ high, Nat.add_zero]

theorem firstOther_not_hex (left : List UInt8) (byte : UInt8) (position : Nat)
    (blamed : FirstOther left byte position) :
    ¬∀ byte ∈ left, HexDigit (byteChar byte) := by
  obtain ⟨other, before, after, rfl, _⟩ := blamed
  intro hex
  exact other (hex byte (by simp))

theorem hexRow_bytes (bytes left : List UInt8) (row : HexRow bytes (left.map byteChar)) :
    ∀ byte ∈ left, HexDigit (byteChar byte) := by
  intro byte member
  exact hexRow_hex bytes _ row _ (List.mem_map_of_mem member)

theorem joinPairs_ok_iff (position : Nat) (left bytes : List UInt8)
    (even : left.length % 2 = 0) :
    joinPairs position left = .ok bytes ↔ HexRow bytes (left.map byteChar) := by
  rcases joinPairs_cases position left even with
    ⟨others, joined, row⟩ | ⟨byte, place, failed, blamed⟩
  · rw [joined, Except.ok.injEq]
    constructor
    · rintro rfl
      exact row
    · intro same
      exact hexRow_unique others bytes _ row same
  · rw [failed]
    constructor
    · intro impossible
      cases impossible
    · intro row
      exact absurd (hexRow_bytes bytes left row) (firstOther_not_hex left byte place blamed)

theorem joinPairs_error_iff (position : Nat) (left : List UInt8) (error : ReadError)
    (even : left.length % 2 = 0) :
    joinPairs position left = .error error ↔
      ∃ byte place, error = .invalidDigit byte (position + place) ∧ FirstOther left byte place := by
  rcases joinPairs_cases position left even with
    ⟨bytes, joined, row⟩ | ⟨byte, place, failed, blamed⟩
  · rw [joined]
    constructor
    · intro impossible
      cases impossible
    · rintro ⟨byte, place, _, blamed⟩
      exact absurd (hexRow_bytes bytes left row) (firstOther_not_hex left byte place blamed)
  · rw [failed, Except.error.injEq]
    constructor
    · rintro rfl
      exact ⟨byte, place, rfl, blamed⟩
    · rintro ⟨another, other, rfl, same⟩
      obtain ⟨rfl, rfl⟩ := firstOther_unique left byte another place other blamed same
      rfl

/-- A form that begins with the byte of a digit is the whole form of that digit. -/
theorem digit_of_bytes (char : Char)
    (hex : ∀ byte ∈ String.utf8EncodeChar char, HexDigit (byteChar byte)) : HexDigit char := by
  obtain ⟨lead, tails, spelled, _⟩ := bytes_cons (.ofChar char)
  rw [CodePoint.bytes_ofChar] at spelled
  -- The form of the digit is its one byte, and no form begins with another.
  have digit : HexDigit (byteChar lead) := hex lead (by simp [spelled])
  have single := (digit_solid (byteChar lead) digit).2.1
  rw [asciiByte_byteChar] at single
  have front : (CodePoint.ofChar (byteChar lead)).bytes <+:
      (CodePoint.ofChar char).bytes ++ [] := by
    simp [CodePoint.bytes_ofChar, single, spelled]
  have same := congrArg CodePoint.lossyChar (bytes_front_unique _ _ _ front)
  rw [CodePoint.lossyChar_ofChar, CodePoint.lossyChar_ofChar] at same
  rwa [same] at digit

theorem digits_bytes (chars : List Char) (hex : ∀ char ∈ chars, HexDigit char) :
    (chars.flatMap String.utf8EncodeChar).map byteChar = chars := by
  induction chars with
  | nil => rfl
  | cons char rest ih =>
      obtain ⟨first, later⟩ := List.forall_mem_cons.mp hex
      obtain ⟨_, single, same⟩ := digit_solid char first
      rw [List.flatMap_cons, List.map_append, ih later, single]
      exact congrArg (· :: rest) same

/-- Characters and their bytes spell alike, since nothing but digits spells at all. -/
theorem hexRow_utf8_iff (bytes : List UInt8) (chars : List Char) :
    HexRow bytes ((chars.flatMap String.utf8EncodeChar).map byteChar) ↔ HexRow bytes chars := by
  constructor
  · intro row
    have hex : ∀ char ∈ chars, HexDigit char := by
      intro char member
      apply digit_of_bytes
      intro byte inside
      exact hexRow_bytes bytes _ row byte (List.mem_flatMap.mpr ⟨char, member, inside⟩)
    rwa [digits_bytes chars hex] at row
  · intro row
    rwa [digits_bytes chars (hexRow_hex bytes chars row)]

def left (text : String) : List UInt8 := utf8 (.ofList (unblanked text))

theorem solid_left (text : String) : solid text.toList = left text := by
  rw [left, utf8_chars, String.toList_ofList]
  rfl

theorem read_left (text : String) :
    read text =
      if (left text).length % 2 = 0 then joinPairs 0 (left text) else .error .oddLength := by
  rw [← solid_left]
  rfl

theorem left_row_iff (text : String) (bytes : List UInt8) :
    HexRow bytes ((left text).map byteChar) ↔ HexRow bytes (unblanked text) := by
  rw [left, utf8_chars, String.toList_ofList]
  exact hexRow_utf8_iff bytes (unblanked text)

theorem left_row_even (text : String) (bytes : List UInt8)
    (row : HexRow bytes (unblanked text)) : (left text).length % 2 = 0 := by
  have count := hexRow_length _ _ ((left_row_iff text bytes).mpr row)
  rw [List.length_map] at count
  omega

theorem read_row_iff (text : String) (bytes : List UInt8) :
    read text = .ok bytes ↔ HexRow bytes (unblanked text) := by
  rw [read_left]
  by_cases even : (left text).length % 2 = 0
  · rw [if_pos even, joinPairs_ok_iff 0 _ bytes even, left_row_iff]
  · rw [if_neg even]
    constructor
    · intro impossible
      cases impossible
    · intro row
      exact absurd (left_row_even text bytes row) even

theorem read_odd_iff (text : String) :
    read text = .error .oddLength ↔ (left text).length % 2 = 1 := by
  rw [read_oddLength_iff, solid_left]

theorem read_other_iff (text : String) (byte : UInt8) (position : Nat) :
    read text = .error (.invalidDigit byte position) ↔
      (left text).length % 2 = 0 ∧ FirstOther (left text) byte position := by
  rw [read_left]
  by_cases even : (left text).length % 2 = 0
  · rw [if_pos even, joinPairs_error_iff 0 _ _ even, and_iff_right even]
    constructor
    · rintro ⟨_, _, same, blamed⟩
      rw [Nat.zero_add] at same
      cases same
      exact blamed
    · intro blamed
      exact ⟨byte, position, by rw [Nat.zero_add], blamed⟩
  · rw [if_neg even]
    constructor
    · intro impossible
      cases impossible
    · rintro ⟨impossible, _⟩
      exact absurd impossible even

/-- A digit keeps its value in lower case, and nothing else becomes a digit. -/
theorem lookup_toLower (char : Char) :
    hexDigits.lookup char.toLower = hexDigits.lookup char := by
  by_cases ascii : char.toNat < 0x80
  · have rows : ∀ code < 0x80, hexDigits.lookup (Char.ofNat code).toLower =
        hexDigits.lookup (Char.ofNat code) := by decide
    rw [← Char.ofNat_toNat char]
    exact rows char.toNat ascii
  · have same : char.toLower = char := by
      unfold Char.toLower
      rw [dif_neg]
      rintro ⟨_, last⟩
      have small : char.toNat ≤ 90 := last
      omega
    rw [same]

theorem cased_digit (half : Nat) (char : Char) (small : half < 16)
    (same : char.toLower = lowerDigit half) : HexDigit char ∧ digitWorth char = half := by
  have listed := lowerDigit_listed half small
  rw [← same, lookup_toLower] at listed
  rw [HexDigit, digitWorth, listed]
  exact ⟨rfl, rfl⟩

/-- Written bytes spell themselves, whatever the case of their digits. -/
theorem cased_row (bytes : List UInt8) (digits : List Char)
    (same : digits.map Char.toLower = bytes.flatMap pair) : HexRow bytes digits := by
  induction bytes generalizing digits with
  | nil =>
      rw [List.map_eq_nil_iff.mp same]
      exact .nil
  | cons byte rest ih =>
      obtain ⟨_, _, spelled, highSmall, lowSmall, worth⟩ := pair_spells byte
      rw [List.flatMap_cons, spelled] at same
      obtain ⟨high, behind, rfl, first, more⟩ := List.map_eq_cons_iff.mp same
      obtain ⟨low, after, rfl, second, later⟩ := List.map_eq_cons_iff.mp more
      obtain ⟨highHex, highWorth⟩ := cased_digit _ high highSmall first
      obtain ⟨lowHex, lowWorth⟩ := cased_digit _ low lowSmall second
      refine .cons highHex lowHex ?_ (ih after later)
      rw [number_pair, highWorth, lowWorth, worth]

theorem spread_filter (chars text : List Char) (spread : Spread chars text)
    (solid : ∀ char ∈ chars, isBlank char = false) :
    (text.filter fun char => !isBlank char) = chars := by
  induction spread with
  | nil => rfl
  | char char _ ih =>
      obtain ⟨first, later⟩ := List.forall_mem_cons.mp solid
      simp [first, ih later]
  | blank blank _ ih => simp [blank, ih solid]

/-- Hex text is read with blanks anywhere and digits of either case: a text is read
as bytes exactly if it spells them once its blanks are out, two digits for each. Any
other text is blamed for an odd number of bytes, or else for the first byte that is
no digit, at its position behind the bytes that are left before it. -/
theorem hexText_read_exactly :
    (∀ bytes digits text, digits.map Char.toLower = (write bytes).toList →
      Spread digits text.toList → read text = .ok bytes) ∧
    ∀ text, (∀ bytes, read text = .ok bytes ↔
        (unblanked text).length = 2 * bytes.length ∧ HexRow bytes (unblanked text)) ∧
      (read text = .error .oddLength ↔ (utf8 (.ofList (unblanked text))).length % 2 = 1) ∧
      ∀ byte position, read text = .error (.invalidDigit byte position) ↔
        (utf8 (.ofList (unblanked text))).length % 2 = 0 ∧
          FirstOther (utf8 (.ofList (unblanked text))) byte position := by
  refine ⟨?_, fun text => ⟨?_, read_odd_iff text, read_other_iff text⟩⟩
  · intro bytes digits text same spread
    rw [write, String.toList_ofList] at same
    have row := cased_row bytes digits same
    have solid : ∀ digit ∈ digits, isBlank digit = false := fun digit member =>
      (digit_solid digit (hexRow_hex bytes digits row digit member)).1
    rw [read_row_iff, unblanked, spread_filter digits text.toList spread solid]
    exact row
  · intro bytes
    rw [read_row_iff]
    exact (and_iff_right_of_imp (hexRow_length bytes (unblanked text))).symm

-- Blanks inside a byte and behind it, and a character whose two bytes keep the count even.
theorem hexText_read_exactly_spread :
    (['6', '1', 'e', 'D'].map Char.toLower = (write [0x61, 0xED]).toList ∧
      Spread ['6', '1', 'e', 'D'] "6 1\u3000eD".toList ∧
      read "6 1\u3000eD" = .ok [0x61, 0xED]) ∧
    (utf8 (.ofList (unblanked "6 é1")) = [0x36, 0xC3, 0xA9, 0x31] ∧
      FirstOther [0x36, 0xC3, 0xA9, 0x31] 0xC3 1 ∧
      read "6 é1" = .error (.invalidDigit 0xC3 1)) ∧
    utf8 (.ofList (unblanked "6é")) = [0x36, 0xC3, 0xA9] ∧ read "6é" = .error .oddLength := by
  have cased : ['6', '1', 'e', 'D'].map Char.toLower = (write [0x61, 0xED]).toList := by cbv
  have spread : Spread ['6', '1', 'e', 'D'] "6 1\u3000eD".toList :=
    .char '6' (.blank rfl (.char '1' (.blank rfl (.char 'e' (.char 'D' .nil)))))
  have even : utf8 (.ofList (unblanked "6 é1")) = [0x36, 0xC3, 0xA9, 0x31] := by cbv
  have odd : utf8 (.ofList (unblanked "6é")) = [0x36, 0xC3, 0xA9] := by cbv
  have first : FirstOther [0x36, 0xC3, 0xA9, 0x31] 0xC3 1 :=
    ⟨by decide, [0x36], [0xA9, 0x31], rfl, rfl, List.forall_mem_singleton.mpr (by decide)⟩
  obtain ⟨written, exactly⟩ := hexText_read_exactly
  refine ⟨⟨cased, spread, written _ _ _ cased spread⟩, ⟨even, first, ?_⟩, odd, ?_⟩
  · rw [(exactly "6 é1").2.2, even]
    exact ⟨rfl, first⟩
  · rw [(exactly "6é").2.1, odd]
    rfl

end Wobbly.Text.HexText
