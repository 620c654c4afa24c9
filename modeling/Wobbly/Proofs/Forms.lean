import Mathlib
import Wobbly.CodePoint

/-! One code point and its bytes. A form is written as a lead byte with the
highest bits and a row of tail bytes with six bits each, and reading undoes
exactly that: a code point is found in front of a window if and only if the
window starts with the bytes of that code point. -/
namespace Wobbly
open CodePoint

theorem tailByte_toNat (bits : Nat) : (tailByte bits).toNat = 0x80 + bits % 0x40 := by
  have small : 0x80 + bits % 0x40 < 2 ^ 8 := by omega
  exact UInt8.toNat_ofNat_of_lt small

theorem tailByte_continues (bits : Nat) : isContinuation (tailByte bits) = true := by
  apply decide_eq_true
  rw [tailByte_toNat]
  omega

theorem tailByte_restored (byte : UInt8) (bits : Nat) (continues : isContinuation byte = true)
    (same : bits % 0x40 = byte.toNat % 0x40) : tailByte bits = byte := by
  have marked : byte.toNat / 0x40 = 2 := of_decide_eq_true continues
  apply UInt8.toNat_inj.mp
  rw [tailByte_toNat]
  omega

namespace Form

def leadByte (form : Form) (top : Nat) : UInt8 := .ofNat (form.marker + top)

def tailBytes : Nat → Nat → List UInt8
  | 0, _ => []
  | count + 1, value => tailByte (value / 0x40 ^ count) :: tailBytes count value

theorem tailBytes_length (count value : Nat) : (tailBytes count value).length = count := by
  induction count with
  | zero => rfl
  | succ count ih => simp [tailBytes, ih]

theorem tailBytes_continue (count value : Nat) (byte : UInt8)
    (member : byte ∈ tailBytes count value) : isContinuation byte = true := by
  induction count with
  | zero => cases member
  | succ count ih =>
      rcases List.mem_cons.mp member with rfl | later
      · exact tailByte_continues _
      · exact ih later

/-- The shortest form is the only one whose least value is reached and whose
lead byte has room for the highest bits. -/
theorem ofValue_iff (form : Form) (value : Nat) (bounded : value ≤ 0x10FFFF) :
    ofValue value = form ↔
      form.least ≤ value ∧ value / 0x40 ^ (form.width - 1) < form.payloads := by
  unfold ofValue
  constructor
  · intro chosen
    split at chosen
    · cases chosen
      simp only [least, width, payloads]
      omega
    split at chosen
    · cases chosen
      simp only [least, width, payloads]
      omega
    split at chosen
    · cases chosen
      simp only [least, width, payloads]
      omega
    · cases chosen
      simp only [least, width, payloads]
      omega
  · cases form with
    | one =>
        simp only [least, width, payloads]
        intro range
        rw [if_pos (by omega)]
    | two =>
        simp only [least, width, payloads]
        intro range
        rw [if_neg (by omega), if_pos (by omega)]
    | three =>
        simp only [least, width, payloads]
        intro range
        rw [if_neg (by omega), if_neg (by omega), if_pos (by omega)]
    | four =>
        simp only [least, width, payloads]
        intro range
        rw [if_neg (by omega), if_neg (by omega), if_neg (by omega)]

theorem leadByte_toNat (form : Form) (top : Nat) (fits : top < form.payloads) :
    (form.leadByte top).toNat = form.marker + top := by
  have small : form.marker + top < 2 ^ 8 := by
    cases form <;> simp only [marker, payloads] at * <;> omega
  exact UInt8.toNat_ofNat_of_lt small

theorem ofLead_iff (lead : UInt8) (form : Form) :
    ofLead? lead = some form ↔
      form.marker ≤ lead.toNat ∧ lead.toNat < form.marker + form.payloads := by
  have small := lead.toNat_lt
  unfold ofLead?
  constructor
  · intro announced
    split at announced
    · cases announced
      simp only [marker, payloads]
      omega
    split at announced
    · cases announced
    split at announced
    · cases announced
      simp only [marker, payloads]
      omega
    split at announced
    · cases announced
      simp only [marker, payloads]
      omega
    split at announced
    · cases announced
      simp only [marker, payloads]
      omega
    · cases announced
  · cases form with
    | one =>
        simp only [marker, payloads]
        intro range
        rw [if_pos (by omega)]
    | two =>
        simp only [marker, payloads]
        intro range
        rw [if_neg (by omega), if_neg (by omega), if_pos (by omega)]
    | three =>
        simp only [marker, payloads]
        intro range
        rw [if_neg (by omega), if_neg (by omega), if_neg (by omega), if_pos (by omega)]
    | four =>
        simp only [marker, payloads]
        intro range
        rw [if_neg (by omega), if_neg (by omega), if_neg (by omega), if_neg (by omega),
          if_pos (by omega)]

theorem leadByte_announces (form : Form) (top : Nat) (fits : top < form.payloads) :
    ofLead? (form.leadByte top) = some form := by
  rw [ofLead_iff, leadByte_toNat form top fits]
  omega

theorem leadByte_payload (form : Form) (top : Nat) (fits : top < form.payloads) :
    (form.leadByte top).toNat % form.payloads = top := by
  rw [leadByte_toNat form top fits]
  cases form <;> simp only [marker, payloads] at * <;> omega

/-- A lead byte is the marker of the form it announces with its own payload. -/
theorem leadByte_restored (lead : UInt8) (form : Form) (announced : ofLead? lead = some form) :
    form.leadByte (lead.toNat % form.payloads) = lead := by
  have range := (ofLead_iff lead form).mp announced
  have parts : form.marker + lead.toNat % form.payloads = lead.toNat := by
    cases form <;> simp only [marker, payloads] at * <;> omega
  rw [leadByte, parts, UInt8.ofNat_toNat]

theorem payloads_pos (form : Form) : 0 < form.payloads := by
  cases form <;> decide

end Form

theorem bytes_parts (point : CodePoint) :
    point.bytes =
      (Form.ofValue point.value).leadByte
          (point.value / 0x40 ^ ((Form.ofValue point.value).width - 1)) ::
        Form.tailBytes ((Form.ofValue point.value).width - 1) point.value := by
  cases chosen : Form.ofValue point.value <;>
    simp [CodePoint.bytes, chosen, Form.leadByte, Form.tailBytes, Form.marker, Form.width]

/-- The spelling of a code point, form by form. -/
theorem bytes_cases (point : CodePoint) :
    (point.value < 0x80 ∧ point.bytes = [.ofNat point.value]) ∨
    (0x80 ≤ point.value ∧ point.value < 0x800 ∧
      point.bytes = [.ofNat (0xC0 + point.value / 0x40), tailByte point.value]) ∨
    (0x800 ≤ point.value ∧ point.value < 0x10000 ∧
      point.bytes = [.ofNat (0xE0 + point.value / 0x1000), tailByte (point.value / 0x40),
        tailByte point.value]) ∨
    (0x10000 ≤ point.value ∧
      point.bytes = [.ofNat (0xF0 + point.value / 0x40000), tailByte (point.value / 0x1000),
        tailByte (point.value / 0x40), tailByte point.value]) := by
  have bounded := point.bounded
  cases chosen : Form.ofValue point.value with
  | one =>
      have range := (Form.ofValue_iff .one point.value bounded).mp chosen
      simp only [Form.least, Form.width, Form.payloads] at range
      exact Or.inl ⟨by omega, by simp only [CodePoint.bytes, chosen]⟩
  | two =>
      have range := (Form.ofValue_iff .two point.value bounded).mp chosen
      simp only [Form.least, Form.width, Form.payloads] at range
      exact Or.inr (Or.inl ⟨by omega, by omega, by simp only [CodePoint.bytes, chosen]⟩)
  | three =>
      have range := (Form.ofValue_iff .three point.value bounded).mp chosen
      simp only [Form.least, Form.width, Form.payloads] at range
      exact Or.inr (Or.inr (Or.inl
        ⟨by omega, by omega, by simp only [CodePoint.bytes, chosen]⟩))
  | four =>
      have range := (Form.ofValue_iff .four point.value bounded).mp chosen
      simp only [Form.least] at range
      exact Or.inr (Or.inr (Or.inr ⟨by omega, by simp only [CodePoint.bytes, chosen]⟩))

theorem bytes_length (point : CodePoint) : point.bytes.length = point.width := by
  rw [bytes_parts, List.length_cons, Form.tailBytes_length]
  unfold CodePoint.width
  cases Form.ofValue point.value <;> rfl

/-- A spelling is a first byte and a row of bytes that only stand inside one. -/
theorem bytes_cons (point : CodePoint) :
    ∃ lead tails, point.bytes = lead :: tails ∧ point.width = tails.length + 1 ∧
      ∀ byte ∈ tails, isContinuation byte = true := by
  refine ⟨_, _, bytes_parts point, ?_, Form.tailBytes_continue _ _⟩
  rw [← bytes_length, bytes_parts, List.length_cons]

theorem width_pos (point : CodePoint) : 0 < point.width := by
  unfold CodePoint.width
  cases Form.ofValue point.value <;> decide

theorem width_le_four (point : CodePoint) : point.width ≤ 4 := by
  unfold CodePoint.width
  cases Form.ofValue point.value <;> decide

theorem width_of_form (point : CodePoint) (form : Form) (reached : form.least ≤ point.value)
    (fits : point.value / 0x40 ^ (form.width - 1) < form.payloads) :
    point.width = form.width := by
  rw [CodePoint.width, (Form.ofValue_iff form point.value point.bounded).mpr ⟨reached, fits⟩]

namespace Scan

theorem extend_tails (high count value : Nat) (rest : List UInt8) :
    extend? high count (Form.tailBytes count value ++ rest) =
      some (high * 0x40 ^ count + value % 0x40 ^ count) := by
  induction count generalizing high with
  | zero => simp [extend?, Nat.mod_one]
  | succ count ih =>
      have low : (tailByte (value / 0x40 ^ count)).toNat % 0x40 = value / 0x40 ^ count % 0x40 := by
        rw [tailByte_toNat]
        omega
      have digits : value % 0x40 ^ (count + 1) =
          value / 0x40 ^ count % 0x40 * 0x40 ^ count + value % 0x40 ^ count := by
        rw [Nat.pow_succ, Nat.mod_mul, Nat.mul_comm, Nat.add_comm]
      simp only [Form.tailBytes, List.cons_append, extend?, tailByte_continues, if_true, low, ih]
      rw [digits, Nat.pow_succ, Nat.add_mul, Nat.mul_assoc, Nat.mul_comm 0x40, Nat.add_assoc]

/-- The bits read are the ones the tail bytes carry, below those given before. -/
theorem extend_exact (high count value : Nat) (window : List UInt8)
    (read : extend? high count window = some value) :
    window = Form.tailBytes count value ++ window.drop count ∧ value / 0x40 ^ count = high := by
  induction count generalizing high window with
  | zero =>
      simp only [extend?, Option.some.injEq] at read
      simp [Form.tailBytes, read]
  | succ count ih =>
      cases window with
      | nil => cases read
      | cons byte rest =>
          simp only [extend?] at read
          split at read
          · next continues =>
            -- Later bytes only add bits below, so dividing gives back the bits read so far.
            obtain ⟨row, top⟩ := ih _ rest read
            have restored : tailByte (value / 0x40 ^ count) = byte := by
              apply tailByte_restored byte _ continues
              rw [top]
              omega
            constructor
            · simp only [Form.tailBytes, List.cons_append, List.drop_succ_cons, restored]
              exact congrArg (List.cons byte) row
            · rw [Nat.pow_succ, ← Nat.div_div_eq_div_mul, top]
              omega
          · cases read

/-- The bytes of a code point are read back, whatever follows them. -/
theorem front_bytes (point : CodePoint) (rest : List UInt8) :
    front? (point.bytes ++ rest) = some ⟨point, point.width⟩ := by
  obtain ⟨reached, fits⟩ := (Form.ofValue_iff _ point.value point.bounded).mp rfl
  rw [bytes_parts]
  simp only [List.cons_append, front?, Form.leadByte_announces _ _ fits,
    Form.leadByte_payload _ _ fits, extend_tails, Nat.div_add_mod']
  rw [if_neg (by omega)]
  simp [CodePoint.ofNat?, point.bounded, CodePoint.width]

/-- Whatever is read stands in front of the window in its own bytes. -/
theorem front_exact (window : List UInt8) (found : Scanned) (read : front? window = some found) :
    found.width = found.point.width ∧
      window = found.point.bytes ++ window.drop found.width := by
  cases window with
  | nil => cases read
  | cons lead rest =>
      simp only [front?] at read
      split at read
      · cases read
      next form announced =>
      split at read
      · cases read
      next value extended =>
      split at read
      · cases read
      next reached =>
      unfold CodePoint.ofNat? at read
      split at read
      · next bounded =>
        cases read
        obtain ⟨row, top⟩ := extend_exact _ _ value rest extended
        -- The lead byte announced the form before the value was known. The value
        -- neither fits a shorter form nor overflows this one.
        have fits : value / 0x40 ^ (form.width - 1) < form.payloads := by
          rw [top]
          exact Nat.mod_lt _ form.payloads_pos
        have chosen : Form.ofValue value = form :=
          (Form.ofValue_iff form value bounded).mpr ⟨Nat.le_of_not_lt reached, fits⟩
        refine ⟨by simp [CodePoint.width, chosen], ?_⟩
        rw [bytes_parts]
        simp only [chosen, top, Form.leadByte_restored lead form announced, List.cons_append]
        have positive : form.width = form.width - 1 + 1 := by cases form <;> rfl
        rw [positive, List.drop_succ_cons]
        exact congrArg (List.cons lead) row
      · cases read

/-- A code point is found exactly where its bytes stand. -/
theorem front_iff (window : List UInt8) (point : CodePoint) (width : Nat) :
    front? window = some ⟨point, width⟩ ↔
      width = point.width ∧ point.bytes <+: window := by
  constructor
  · intro read
    obtain ⟨measured, cut⟩ := front_exact window _ read
    exact ⟨measured, _, cut.symm⟩
  · rintro ⟨rfl, rest, rfl⟩
    exact front_bytes point rest

/-- Nothing starts with a byte that only stands inside a sequence. -/
theorem front_continuation (byte : UInt8) (rest : List UInt8)
    (continues : isContinuation byte = true) : front? (byte :: rest) = none := by
  have marked : byte.toNat / 0x40 = 2 := of_decide_eq_true continues
  have silent : Form.ofLead? byte = none := by
    unfold Form.ofLead?
    rw [if_neg (by omega), if_pos (by omega)]
  rw [front?, silent]

end Scan

theorem bytes_front_unique (first second : CodePoint) (rest : List UInt8)
    (front : first.bytes <+: second.bytes ++ rest) : first = second := by
  have found := (Scan.front_iff _ first first.width).mpr ⟨rfl, front⟩
  rw [Scan.front_bytes] at found
  cases found
  rfl

end Wobbly
