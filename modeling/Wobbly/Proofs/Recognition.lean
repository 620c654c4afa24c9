import Wobbly.Grammar.Bytes
import Wobbly.Proofs.RoundTrip

/-! Reading recognizes the grammar of byte ranges. The ranges and the forms
describe the same rows of bytes: a unit of the grammar is the spelling of one
code point, its payload is the value, and the units of halves are told apart by
their second byte. A text therefore has at most one division into units. -/
namespace Wobbly.Grammar
open CodePoint Sequence Decoding

theorem continuation_iff (byte : UInt8) : isContinuation byte = true ↔ IsTail byte := by
  simp only [isContinuation, decide_eq_true_eq, IsTail]
  omega

theorem tailByte_tail (bits : Nat) : IsTail (tailByte bits) :=
  (continuation_iff _).mp (tailByte_continues bits)

theorem extend_tail (high count : Nat) (byte : UInt8) (rest : List UInt8) (tail : IsTail byte) :
    Scan.extend? high (count + 1) (byte :: rest) =
      Scan.extend? (high * 0x40 + byte.toNat % 0x40) count rest := by
  rw [Scan.extend?, if_pos ((continuation_iff byte).mpr tail)]

-- The lead byte alone fixes the form; the value must then need all of its bytes.
theorem unit_spelled (lead : UInt8) (tails : List UInt8) (form : Form) (value : Nat)
    (range : form.marker ≤ lead.toNat ∧ lead.toNat < form.marker + form.payloads)
    (carried : Scan.extend? (lead.toNat % form.payloads) (form.width - 1) tails = some value)
    (long : form.width = tails.length + 1) (reached : form.least ≤ value)
    (bounded : value ≤ 0x10FFFF) :
    ∃ point : CodePoint, lead :: tails = point.bytes := by
  have read : Scan.front? (lead :: tails) = some ⟨⟨value, bounded⟩, form.width⟩ := by
    simp only [Scan.front?, (Form.ofLead_iff lead form).mpr range, carried]
    rw [if_neg (by omega)]
    simp [CodePoint.ofNat?, bounded]
  obtain ⟨_, cut⟩ := Scan.front_exact _ _ read
  rw [List.drop_eq_nil_of_le (by simp [long]), List.append_nil] at cut
  exact ⟨_, cut⟩

theorem two_spelled (a b : UInt8) (range : 0xC2 ≤ a.toNat ∧ a.toNat ≤ 0xDF) (tail : IsTail b) :
    ∃ point : CodePoint, [a, b] = point.bytes := by
  apply unit_spelled a [b] .two (a.toNat % 0x20 * 0x40 + b.toNat % 0x40)
  · simp only [Form.marker, Form.payloads]
    omega
  · exact extend_tail _ 0 b [] tail
  · rfl
  · simp only [Form.least]
    omega
  · omega

theorem three_spelled (a b c : UInt8) (range : 0xE0 ≤ a.toNat ∧ a.toNat ≤ 0xEF)
    (second : IsTail b) (tail : IsTail c) (reached : a.toNat = 0xE0 → 0xA0 ≤ b.toNat) :
    ∃ point : CodePoint, [a, b, c] = point.bytes := by
  apply unit_spelled a [b, c] .three
    ((a.toNat % 0x10 * 0x40 + b.toNat % 0x40) * 0x40 + c.toNat % 0x40)
  · simp only [Form.marker, Form.payloads]
    omega
  · exact (extend_tail _ 1 b [c] second).trans (extend_tail _ 0 c [] tail)
  · rfl
  · simp only [Form.least]
    simp only [IsTail] at second
    omega
  · omega

theorem four_spelled (a b c d : UInt8) (range : 0xF0 ≤ a.toNat ∧ a.toNat ≤ 0xF4)
    (second : IsTail b) (third : IsTail c) (tail : IsTail d)
    (reached : a.toNat = 0xF0 → 0x90 ≤ b.toNat) (bounded : a.toNat = 0xF4 → b.toNat ≤ 0x8F) :
    ∃ point : CodePoint, [a, b, c, d] = point.bytes := by
  simp only [IsTail] at second
  apply unit_spelled a [b, c, d] .four
    (((a.toNat % 0x08 * 0x40 + b.toNat % 0x40) * 0x40 + c.toNat % 0x40) * 0x40 + d.toNat % 0x40)
  · simp only [Form.marker, Form.payloads]
    omega
  · exact ((extend_tail _ 2 b [c, d] second).trans (extend_tail _ 1 c [d] third)).trans
      (extend_tail _ 0 d [] tail)
  · rfl
  · simp only [Form.least]
    omega
  · omega

theorem unit_point (unit : List UInt8) (derived : ByteUnit unit) :
    ∃ point : CodePoint, unit = point.bytes := by
  cases derived with
  | @ascii a first =>
      apply unit_spelled a [] .one a.toNat
      · simp only [Form.marker, Form.payloads]
        omega
      · have whole : a.toNat % 0x80 = a.toNat := Nat.mod_eq_of_lt (by omega)
        exact congrArg some whole
      · rfl
      · exact Nat.zero_le _
      · omega
  | two first tail => exact two_spelled _ _ first tail
  | @threeLow b c second tail =>
      exact three_spelled 0xE0 b c (by decide) ⟨by omega, second.2⟩ tail fun _ => second.1
  | @three a b c first second tail =>
      exact three_spelled a b c (by omega) second tail (by omega)
  | @fourLow b c d second third tail =>
      exact four_spelled 0xF0 b c d (by decide) ⟨by omega, second.2⟩ third tail
        (fun _ => second.1) (fun impossible => absurd impossible (by decide))
  | @four a b c d first second third tail =>
      exact four_spelled a b c d (by omega) second third tail (by omega) (by omega)
  | @fourHigh b c d second third tail =>
      exact four_spelled 0xF4 b c d (by decide) ⟨second.1, by omega⟩ third tail
        (fun impossible => absurd impossible (by decide)) (fun _ => second.2)

theorem bytes_unit (point : CodePoint) : ByteUnit point.bytes := by
  have bounded := point.bounded
  rcases bytes_cases point with ⟨small, spelled⟩ | ⟨low, high, spelled⟩ |
    ⟨low, high, spelled⟩ | ⟨low, spelled⟩
  · rw [spelled]
    apply ByteUnit.ascii
    rw [UInt8.toNat_ofNat']
    omega
  · rw [spelled]
    apply ByteUnit.two _ (tailByte_tail _)
    rw [UInt8.toNat_ofNat']
    omega
  · rw [spelled]
    by_cases first : point.value < 0x1000
    · rw [Nat.div_eq_of_lt first]
      apply ByteUnit.threeLow _ (tailByte_tail _)
      rw [tailByte_toNat]
      omega
    · apply ByteUnit.three _ (tailByte_tail _) (tailByte_tail _)
      rw [UInt8.toNat_ofNat']
      omega
  · rw [spelled]
    by_cases first : point.value < 0x40000
    · rw [Nat.div_eq_of_lt first]
      apply ByteUnit.fourLow _ (tailByte_tail _) (tailByte_tail _)
      rw [tailByte_toNat]
      omega
    by_cases last : 0x100000 ≤ point.value
    · have top : point.value / 0x40000 = 4 := by omega
      rw [top]
      apply ByteUnit.fourHigh _ (tailByte_tail _) (tailByte_tail _)
      rw [tailByte_toNat]
      omega
    · apply ByteUnit.four _ (tailByte_tail _) (tailByte_tail _) (tailByte_tail _)
      rw [UInt8.toNat_ofNat']
      omega

theorem payload_bytes (point : CodePoint) : payload point.bytes = point.value := by
  have bounded := point.bounded
  rcases bytes_cases point with ⟨small, spelled⟩ | ⟨low, high, spelled⟩ |
    ⟨low, high, spelled⟩ | ⟨low, spelled⟩
  · rw [spelled, payload, UInt8.toNat_ofNat']
    omega
  · rw [spelled, payload, UInt8.toNat_ofNat', tailByte_toNat]
    omega
  · rw [spelled, payload, UInt8.toNat_ofNat', tailByte_toNat, tailByte_toNat]
    omega
  · rw [spelled, payload, UInt8.toNat_ofNat', tailByte_toNat, tailByte_toNat, tailByte_toNat]
    omega

-- The code points from D000 to DFFF share one lead byte; the second byte holds
-- the next six bits and so cuts this block into the ranges of the surrogates.
theorem second_byte_iff (point : CodePoint) (low high : Nat) (above : 0x80 ≤ low)
    (below : high ≤ 0xBF) :
    (∃ b c : UInt8, point.bytes = [0xED, b, c] ∧ low ≤ b.toNat ∧ b.toNat ≤ high) ↔
      0xD000 + (low - 0x80) * 0x40 ≤ point.value ∧
        point.value < 0xD000 + (high + 1 - 0x80) * 0x40 := by
  constructor
  · rintro ⟨b, c, spelled, lowest, highest⟩
    have value := payload_bytes point
    rw [spelled, payload] at value
    change (0xD * 0x40 + b.toNat % 0x40) * 0x40 + c.toNat % 0x40 = point.value at value
    omega
  · rintro ⟨lowest, highest⟩
    rcases bytes_cases point with ⟨small, _⟩ | ⟨_, small, _⟩ | ⟨_, _, spelled⟩ | ⟨large, _⟩
    · omega
    · omega
    · have top : point.value / 0x1000 = 0xD := by omega
      rw [top] at spelled
      refine ⟨_, _, spelled, ?_⟩
      rw [tailByte_toNat]
      omega
    · omega

theorem leadUnit_iff (point : CodePoint) : LeadUnit point.bytes ↔ point.isLead = true := by
  rw [LeadUnit, second_byte_iff point 0xA0 0xAF (by decide) (by decide), lead_iff]
  omega

theorem trailUnit_iff (point : CodePoint) : TrailUnit point.bytes ↔ point.isTrail = true := by
  rw [TrailUnit, second_byte_iff point 0xB0 0xBF (by decide) (by decide), trail_iff]
  omega

theorem units_points (units : List (List UInt8)) (derived : ∀ unit ∈ units, ByteUnit unit) :
    ∃ points : List CodePoint, units = points.map CodePoint.bytes := by
  induction units with
  | nil => exact ⟨[], rfl⟩
  | cons unit rest ih =>
      obtain ⟨point, spelled⟩ := unit_point unit (derived unit (by simp))
      obtain ⟨points, row⟩ := ih fun later member => derived later (List.mem_cons_of_mem _ member)
      exact ⟨point :: points, by rw [List.map_cons, ← spelled, ← row]⟩

theorem pairsJoined_iff (points : List CodePoint) :
    PairsJoined (points.map CodePoint.bytes) ↔ PairFree points := by
  induction points with
  | nil => exact ⟨fun _ => List.IsChain.nil, fun _ => trivial⟩
  | cons first rest ih =>
      cases rest with
      | nil => exact ⟨fun _ => List.IsChain.singleton first, fun _ => trivial⟩
      | cons second rest =>
          rw [List.map_cons, List.map_cons, PairsJoined, leadUnit_iff, trailUnit_iff,
            pairFree_cons_cons, ← ih]
          rfl

/-- The divisions of a row of bytes are the spellings of code points without a
split pair. -/
theorem division_iff (bytes : List UInt8) (units : List (List UInt8)) :
    Division bytes units ↔ ∃ points : List CodePoint, units = points.map CodePoint.bytes ∧
      bytes = points.flatMap CodePoint.bytes ∧ PairFree points := by
  constructor
  · rintro ⟨derived, joined, row⟩
    obtain ⟨points, rfl⟩ := units_points units derived
    refine ⟨points, rfl, ?_, (pairsJoined_iff points).mp joined⟩
    rw [row, List.flatMap_def]
  · rintro ⟨points, rfl, rfl, free⟩
    refine ⟨?_, (pairsJoined_iff points).mpr free, List.flatMap_def ..⟩
    intro unit member
    obtain ⟨point, _, rfl⟩ := List.mem_map.mp member
    exact bytes_unit point

theorem values_payloads (points : List CodePoint) :
    points.map CodePoint.value = (points.map CodePoint.bytes).map payload := by
  rw [List.map_map]
  exact List.map_congr_left fun point _ => (payload_bytes point).symm

/-- Keeping surrogates, the texts that are read are exactly those of the grammar.
A text falls into units in one way only, and their payloads are what is read. -/
theorem accept_recognizes_grammar (bytes : List UInt8) :
    ((∃ points, decodeAll bytes .accept = .ok points) ↔ ∃ units, Division bytes units) ∧
      (∀ units, Division bytes units → ∃ points, decodeAll bytes .accept = .ok points ∧
        points.map CodePoint.value = units.map payload) ∧
      ∀ units others, Division bytes units → Division bytes others → units = others := by
  refine ⟨⟨?_, ?_⟩, ?_, ?_⟩
  · rintro ⟨points, accepted⟩
    obtain ⟨row, free⟩ := (decodeAll_accept_iff bytes points).mp accepted
    exact ⟨_, (division_iff bytes _).mpr ⟨points, rfl, row, free⟩⟩
  · rintro ⟨units, divided⟩
    obtain ⟨points, _, row, free⟩ := (division_iff bytes units).mp divided
    exact ⟨points, (decodeAll_accept_iff bytes points).mpr ⟨row, free⟩⟩
  · intro units divided
    obtain ⟨points, rfl, row, free⟩ := (division_iff bytes units).mp divided
    exact ⟨points, (decodeAll_accept_iff bytes points).mpr ⟨row, free⟩, values_payloads points⟩
  · -- Both divisions spell what the bytes decode to, and decoding has one answer.
    intro units others left right
    obtain ⟨points, rfl, row⟩ := (division_iff bytes units).mp left
    obtain ⟨again, rfl, otherRow⟩ := (division_iff bytes others).mp right
    have first := (decodeAll_accept_iff bytes points).mpr row
    have second := (decodeAll_accept_iff bytes again).mpr otherRow
    rw [first] at second
    rw [Except.ok.inj second]

theorem accept_recognizes_lone_lead :
    Division [0xED, 0xA0, 0x80, 0xF0, 0x90, 0x80, 0x80]
        [[0xED, 0xA0, 0x80], [0xF0, 0x90, 0x80, 0x80]] ∧
      ∃ points, decodeAll [0xED, 0xA0, 0x80, 0xF0, 0x90, 0x80, 0x80] .accept = .ok points ∧
        points.map CodePoint.value = [0xD800, 0x10000] := by
  have divided : Division [0xED, 0xA0, 0x80, 0xF0, 0x90, 0x80, 0x80]
      [[0xED, 0xA0, 0x80], [0xF0, 0x90, 0x80, 0x80]] := by
    refine ⟨?_, ?_, rfl⟩
    · intro unit member
      rcases List.mem_cons.mp member with rfl | later
      · exact ByteUnit.three (by decide) (by decide) (by decide)
      · obtain rfl := List.mem_singleton.mp later
        exact ByteUnit.fourLow (by decide) (by decide) (by decide)
    · refine ⟨?_, trivial⟩
      rintro ⟨_, b, c, trail, _⟩
      cases trail
  exact ⟨divided, (accept_recognizes_grammar _).2.1 _ divided⟩

end Wobbly.Grammar
