import Wobbly.Proofs.Forms

/-! Scanning undoes spelling, wherever it starts. A code point is found at a
position exactly if its bytes fill the slice that begins there, and nothing is
found exactly if no code point's bytes do. The longest form has four bytes, so no
byte behind these is ever looked at, and no form is the beginning of another. -/
namespace Wobbly
open CodePoint

def StandsAt (window : List UInt8) (position : Nat) (point : CodePoint) : Prop :=
  position + point.width ≤ window.length ∧
    Span.window ⟨position, position + point.width⟩ window = point.bytes

theorem standsAt_iff (window : List UInt8) (position : Nat) (point : CodePoint) :
    StandsAt window position point ↔ point.bytes <+: window.drop position := by
  have measured := bytes_length point
  have positive := width_pos point
  rw [StandsAt, Span.window, Nat.add_sub_cancel_left, List.prefix_iff_eq_take, measured]
  constructor
  · rintro ⟨_, row⟩
    exact row.symm
  · intro row
    -- A slice as long as the form is not cut short by the end of the window.
    have filled := congrArg List.length row
    rw [measured, List.length_take, List.length_drop] at filled
    exact ⟨by omega, row.symm⟩

namespace Scan

theorem at_iff (window : List UInt8) (position : Nat) (found : Scanned) :
    at? window position = some found ↔
      found.width = found.point.width ∧ StandsAt window position found.point := by
  rw [at?, front_iff, standsAt_iff]

theorem at_none_iff (window : List UInt8) (position : Nat) :
    at? window position = none ↔ ∀ point, ¬StandsAt window position point := by
  rw [Option.eq_none_iff_forall_ne_some]
  constructor
  · intro silent point stands
    exact silent ⟨point, point.width⟩ ((at_iff window position _).mpr ⟨rfl, stands⟩)
  · intro absent found read
    exact absent found.point ((at_iff window position found).mp read).2

theorem at_value_iff (window : List UInt8) (position value width : Nat) :
    (at? window position).map (fun found => (found.point.value, found.width)) =
        some (value, width) ↔
      ∃ bounded : value ≤ 0x10FFFF, width = CodePoint.width ⟨value, bounded⟩ ∧
        StandsAt window position ⟨value, bounded⟩ := by
  rw [Option.map_eq_some_iff]
  constructor
  · rintro ⟨⟨point, width⟩, read, same⟩
    cases same
    exact ⟨point.bounded, (at_iff window position _).mp read⟩
  · rintro ⟨bounded, measured, stands⟩
    exact ⟨⟨⟨value, bounded⟩, width⟩, (at_iff window position _).mpr ⟨measured, stands⟩, rfl⟩

/-- Four bytes decide what stands in front of a window. -/
theorem front_take (window : List UInt8) : front? (window.take 4) = front? window := by
  apply Option.ext
  intro found
  rw [front_iff, front_iff, List.prefix_take_iff, bytes_length]
  exact and_congr_right fun _ => and_iff_left (width_le_four found.point)

theorem at_near (window : List UInt8) (position : Nat) :
    at? window position =
      front? (Span.window ⟨position, min (position + 4) window.length⟩ window) := by
  have near : Span.window ⟨position, min (position + 4) window.length⟩ window =
      (window.drop position).take 4 := by
    change (window.drop position).take (min (position + 4) window.length - position) = _
    rw [List.take_eq_take_iff, List.length_drop]
    omega
  rw [near, front_take, at?]

/-- Scanning and spelling are inverse at every position of every window, inside or
beyond it. What is found depends on the next four bytes at most, and since at most
one form stands at a position, no form begins with another. -/
theorem scanning_inverts_spelling (window : List UInt8) (position : Nat) :
    (∀ value width, (at? window position).map (fun found => (found.point.value, found.width)) =
        some (value, width) ↔
      ∃ bounded : value ≤ 0x10FFFF, position + width ≤ window.length ∧
        width = CodePoint.width ⟨value, bounded⟩ ∧
        Span.window ⟨position, position + width⟩ window = CodePoint.bytes ⟨value, bounded⟩) ∧
    (at? window position = none ↔ ∀ point : CodePoint,
      ¬(position + point.width ≤ window.length ∧
        Span.window ⟨position, position + point.width⟩ window = point.bytes)) ∧
    (∀ other place,
      Span.window ⟨place, min (place + 4) other.length⟩ other =
        Span.window ⟨position, min (position + 4) window.length⟩ window →
      at? other place = at? window position) ∧
    ∀ first second : CodePoint, first.bytes <+: second.bytes → first = second := by
  refine ⟨?_, at_none_iff window position, ?_, ?_⟩
  · intro value width
    rw [at_value_iff]
    refine exists_congr fun bounded => ?_
    constructor
    · rintro ⟨rfl, inside, row⟩
      exact ⟨inside, rfl, row⟩
    · rintro ⟨inside, rfl, row⟩
      exact ⟨rfl, inside, row⟩
  · intro other place same
    rw [at_near, at_near, same]
  · intro first second front
    exact bytes_front_unique first second [] (by rwa [List.append_nil])

-- A lone lead, before and behind which the two windows differ, and the last 64-bit position.
theorem scanning_inverts_spelling_lone_lead :
    at? [0x61, 0xED, 0xA0, 0x80, 0x62] 1 = some ⟨⟨0xD800, by decide⟩, 3⟩ ∧
      (Span.window ⟨2, 6⟩ ([0xFF, 0xC3, 0xED, 0xA0, 0x80, 0x62, 0x63] : List UInt8) =
          Span.window ⟨1, 5⟩ [0x61, 0xED, 0xA0, 0x80, 0x62] ∧
        at? [0xFF, 0xC3, 0xED, 0xA0, 0x80, 0x62, 0x63] 2 =
          at? [0x61, 0xED, 0xA0, 0x80, 0x62] 1) ∧
      (∀ point : CodePoint, ¬(0xFFFFFFFFFFFFFFFF + point.width ≤ 1 ∧
        Span.window ⟨0xFFFFFFFFFFFFFFFF, 0xFFFFFFFFFFFFFFFF + point.width⟩ [0x61] =
          point.bytes)) ∧
      [0xED, 0xA0, 0x80] <+: CodePoint.bytes ⟨0xD800, by decide⟩ ∧
      ∀ point : CodePoint, point.bytes = [0xED, 0xA0, 0x80] → point = ⟨0xD800, by decide⟩ := by
  obtain ⟨found, _, near, apart⟩ :=
    scanning_inverts_spelling [0x61, 0xED, 0xA0, 0x80, 0x62] 1
  have slices : Span.window ⟨2, 6⟩ ([0xFF, 0xC3, 0xED, 0xA0, 0x80, 0x62, 0x63] : List UInt8) =
      Span.window ⟨1, 5⟩ [0x61, 0xED, 0xA0, 0x80, 0x62] := by decide
  have front : [0xED, 0xA0, 0x80] <+: CodePoint.bytes ⟨0xD800, by decide⟩ := by decide
  obtain ⟨⟨⟨value, _⟩, width⟩, read, same⟩ := Option.map_eq_some_iff.mp
    ((found 0xD800 3).mpr ⟨by decide, by decide, by decide, by decide⟩)
  cases same
  refine ⟨read, ⟨slices, near _ 2 slices⟩, ?_, front, ?_⟩
  · exact (scanning_inverts_spelling [0x61] 0xFFFFFFFFFFFFFFFF).2.1.mp rfl
  · intro point spelled
    exact apart point _ (spelled ▸ front)

end Scan
end Wobbly
