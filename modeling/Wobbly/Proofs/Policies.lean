import Wobbly.Proofs.LongestPrefix
import Wobbly.Proofs.Resynchronization

/-! The three policies side by side. They read alike as long as no surrogate
comes up. At a surrogate accepting goes on behind its three bytes, rejecting
stops in front of it, and replacing goes on byte by byte, through two bytes that
start nothing. What rejecting has read is also read when accepting, so rejecting
never gets further. -/
namespace Wobbly
open CodePoint Reading Sequence Decoding Encoding Grammar

namespace CodePoint

theorem surrogate_width (point : CodePoint) (surrogate : point.isSurrogate = true) :
    point.width = 3 := by
  rw [surrogate_iff] at surrogate
  apply width_of_form point .three
  · change 0x800 ≤ point.value
    omega
  · change point.value / 0x40 ^ 2 < 0x10
    omega

end CodePoint

namespace Sequence

/-- A sequence is cut right before its first surrogate. -/
theorem first_surrogate (points : List CodePoint) (found : hasSurrogate points = true) :
    ∃ point rest, point.isSurrogate = true ∧
      hasSurrogate (points.take (points.findIdx isSurrogate)) = false ∧
      points = points.take (points.findIdx isSurrogate) ++ point :: rest := by
  induction points with
  | nil => cases found
  | cons first rest ih =>
      rw [List.findIdx_cons]
      cases surrogate : first.isSurrogate with
      | true => exact ⟨first, rest, surrogate, rfl, rfl⟩
      | false =>
          have later : hasSurrogate rest = true := by
            rw [hasSurrogate, List.any_cons, surrogate] at found
            exact found
          obtain ⟨point, behind, half, scalar, row⟩ := ih later
          refine ⟨point, behind, half, ?_, ?_⟩
          · exact (hasSurrogate_cons first _).mpr ⟨surrogate, scalar⟩
          · exact congrArg (List.cons first) row

end Sequence

namespace Grammar

theorem positional_surrogate (point : CodePoint) (rest : List UInt8)
    (surrogate : point.isSurrogate = true) :
    positional (point.bytes ++ rest) = List.replicate 3 .replacement ++ positional rest := by
  have silent : scalarAt? (point.bytes ++ rest) 0 = none := by
    unfold scalarAt? Scan.at?
    rw [List.drop_zero, Scan.front_bytes, Option.filter_some, surrogate]
    rfl
  obtain ⟨lead, tails, spelled, width, inner⟩ := bytes_cons point
  rw [surrogate_width point surrogate] at width
  rw [spelled, List.cons_append] at silent ⊢
  rw [positional_damaged lead _ silent, positional_tails tails rest inner,
    ← Nat.succ.inj width]
  rfl

/-- Bytes of code points are repaired one code point at a time. -/
theorem positional_points (points : List CodePoint) :
    positional (points.flatMap CodePoint.bytes) =
      points.flatMap fun point =>
        if point.isSurrogate then List.replicate 3 .replacement else [point] := by
  induction points with
  | nil => rfl
  | cons point rest ih =>
      rw [List.flatMap_cons, List.flatMap_cons]
      cases surrogate : point.isSurrogate with
      | true =>
          rw [positional_surrogate point _ surrogate, ih]
          rfl
      | false =>
          rw [positional_kept point _ surrogate, ih]
          rfl

end Grammar

namespace Reading

theorem reject_stops (offset : Nat) (before : List CodePoint) (point : CodePoint)
    (rest : List UInt8) (scalar : hasSurrogate before = false)
    (surrogate : point.isSurrogate = true) :
    ∃ pieces, Run .reject offset false (before.flatMap CodePoint.bytes ++ (point.bytes ++ rest))
      pieces (some (offset + (before.flatMap CodePoint.bytes).length)) := by
  have stopped : Run .reject (offset + (before.flatMap CodePoint.bytes).length)
      (leadAfter false before) (point.bytes ++ rest) []
      (some (offset + (before.flatMap CodePoint.bytes).length)) :=
    run_unwelcome point rest (by decide) (by simp [welcome, surrogate])
  obtain ⟨front, run, _⟩ :=
    run_append before _ (admitted_scalar .reject false before scalar) stopped
  exact ⟨_, run⟩

/-- What rejecting admits is admitted when accepting, too. -/
theorem admitted_accept_of_reject (points : List CodePoint)
    (admitted : Admitted .reject false points) : Admitted .accept false points :=
  admitted_scalar .accept false points ((admitted_reject_iff false points).mp admitted)

theorem reject_stops_first {offset position : Nat} {window : List UInt8} {pieces : List Piece}
    (run : Run .accept offset false window pieces (some position)) :
    ∃ others earlier, Run .reject offset false window others (some earlier) ∧
      earlier ≤ position := by
  obtain ⟨length, place, short, _⟩ := run_stopped_front run
  obtain ⟨others, stopped, strict⟩ := run_exists .reject offset false window
  cases stopped with
  | none =>
      obtain ⟨row, admitted⟩ := run_admitted (by decide) strict
      have front : (others.map Piece.point).flatMap CodePoint.bytes <+: window := by
        rw [← row]
      have reached := run_stopped_longest run _ (admitted_accept_of_reject _ admitted) front
      rw [← row] at reached
      omega
  | some earlier =>
      obtain ⟨count, passed, within, row, admitted⟩ := run_stopped_front strict
      have front : (others.map Piece.point).flatMap CodePoint.bytes <+: window := by
        rw [← row]
        exact List.take_prefix count window
      have reached := run_stopped_longest run _ (admitted_accept_of_reject _ admitted) front
      rw [← row, List.length_take] at reached
      exact ⟨others, earlier, strict, by omega⟩

end Reading

theorem decode_reject_iff (buffer : List UInt8) (span : Span) (points : List CodePoint) :
    decode buffer span .reject = .ok points ↔
      (span.start ≤ span.stop ∧ span.stop ≤ buffer.length) ∧
        span.window buffer = points.flatMap CodePoint.bytes ∧ hasSurrogate points = false := by
  rw [decode_strict_iff buffer span .reject points (by decide), admitted_reject_iff]

theorem reject_accept_iff (buffer : List UInt8) (span : Span) (points : List CodePoint) :
    decode buffer span .reject = .ok points ↔
      decode buffer span .accept = .ok points ∧ hasSurrogate points = false := by
  rw [decode_reject_iff, decode_accept_iff]
  constructor
  · rintro ⟨placed, row, scalar⟩
    refine ⟨⟨placed, row, ?_⟩, scalar⟩
    rw [← admitted_accept_iff]
    exact admitted_scalar .accept false points scalar
  · rintro ⟨⟨placed, row, _⟩, scalar⟩
    exact ⟨placed, row, scalar⟩

theorem decode_replace (buffer : List UInt8) (span : Span)
    (placed : span.start ≤ span.stop ∧ span.stop ≤ buffer.length) :
    decode buffer span .replace = .ok (positional (span.window buffer)) := by
  rw [decode_placed buffer span .replace placed]
  exact decodeWindow_replace span.start _

theorem replace_of_reject (buffer : List UInt8) (span : Span) (points : List CodePoint)
    (rejected : decode buffer span .reject = .ok points) :
    decode buffer span .replace = .ok points := by
  obtain ⟨placed, row, scalar⟩ := (decode_reject_iff buffer span points).mp rejected
  rw [decode_ok_iff, row, decodeWindow_ok_iff]
  exact ⟨placed, admitted_run .replace span.start false points
    (admitted_scalar .replace false points scalar)⟩

theorem reject_first_surrogate (buffer : List UInt8) (span : Span) (points : List CodePoint)
    (accepted : decode buffer span .accept = .ok points) (found : hasSurrogate points = true) :
    decode buffer span .reject = .error (.invalidUtf8
      (span.start + encodedLength (points.take (points.findIdx isSurrogate)))) := by
  obtain ⟨placed, row, _⟩ := (decode_accept_iff buffer span points).mp accepted
  obtain ⟨point, rest, surrogate, scalar, parts⟩ := first_surrogate points found
  obtain ⟨pieces, run⟩ := reject_stops span.start _ point (rest.flatMap CodePoint.bytes) scalar
    surrogate
  rw [decode_placed buffer span .reject placed, decodeWindow_error_iff, encodedLength_exact,
    encode_scalar _ scalar]
  rw [← List.flatMap_cons, ← List.flatMap_append, ← parts, ← row] at run
  exact ⟨pieces, _, run, rfl⟩

theorem reject_fails_first (buffer : List UInt8) (span : Span) (error : DecodeError)
    (placed : span.start ≤ span.stop ∧ span.stop ≤ buffer.length)
    (failed : decode buffer span .accept = .error error) :
    ∃ offset, decode buffer span .reject = .error (.invalidUtf8 offset) ∧
      offset ≤ error.offset := by
  rw [decode_placed buffer span .accept placed, decodeWindow_error_iff] at failed
  obtain ⟨pieces, position, run, malformed⟩ := failed
  obtain ⟨others, earlier, strict, before⟩ := reject_stops_first run
  cases malformed
  refine ⟨earlier, ?_, before⟩
  rw [decode_placed buffer span .reject placed, decodeWindow_error_iff]
  exact ⟨others, earlier, strict, rfl⟩

/-- On every span inside a buffer the three policies differ only where strict
text does. Rejecting reads what accepting reads without surrogates, and replacing
reads it alike. What accepting reads with surrogates is repaired with three
replacement characters for each, and rejected at the first. Where accepting
fails, rejecting fails there or earlier. -/
theorem policies_agree (buffer : List UInt8) (span : Span)
    (placed : span.start ≤ span.stop ∧ span.stop ≤ buffer.length) :
    (∀ points, decode buffer span .reject = .ok points ↔
      decode buffer span .accept = .ok points ∧ hasSurrogate points = false) ∧
    (∀ points, decode buffer span .reject = .ok points →
      decode buffer span .replace = .ok points) ∧
    (∀ points, decode buffer span .accept = .ok points →
      decode buffer span .replace = .ok (points.flatMap fun point =>
        if point.isSurrogate then List.replicate 3 .replacement else [point]) ∧
      (hasSurrogate points = true → decode buffer span .reject = .error (.invalidUtf8
        (span.start + encodedLength (points.take (points.findIdx isSurrogate)))))) ∧
    ∀ error, decode buffer span .accept = .error error →
      ∃ offset, decode buffer span .reject = .error (.invalidUtf8 offset) ∧
        offset ≤ error.offset := by
  refine ⟨reject_accept_iff buffer span, replace_of_reject buffer span, ?_, ?_⟩
  · intro points accepted
    refine ⟨?_, reject_first_surrogate buffer span points accepted⟩
    obtain ⟨_, row, _⟩ := (decode_accept_iff buffer span points).mp accepted
    rw [decode_replace buffer span placed, row, positional_points]
  · intro error failed
    exact reject_fails_first buffer span error placed failed

-- A lone lead behind a letter, and the same with a byte that starts nothing.
theorem policies_agree_lone_lead :
    decode [0x61, 0xED, 0xA0, 0x80] ⟨0, 4⟩ .accept = .ok [.ofChar 'a', ⟨0xD800, by decide⟩] ∧
      decode [0x61, 0xED, 0xA0, 0x80] ⟨0, 4⟩ .replace =
        .ok [.ofChar 'a', .replacement, .replacement, .replacement] ∧
      decode [0x61, 0xED, 0xA0, 0x80] ⟨0, 4⟩ .reject = .error (.invalidUtf8 1) ∧
      decode [0x61, 0xED, 0xA0, 0x80] ⟨0, 1⟩ .reject = .ok [.ofChar 'a'] ∧
      decode [0x61, 0xED, 0xA0, 0x80] ⟨0, 1⟩ .replace = .ok [.ofChar 'a'] ∧
      decode [0xED, 0xA0, 0x80, 0xFF] ⟨0, 4⟩ .accept = .error (.invalidWtf8 3) ∧
      ∃ offset, decode [0xED, 0xA0, 0x80, 0xFF] ⟨0, 4⟩ .reject = .error (.invalidUtf8 offset) ∧
        offset ≤ 3 := by
  have accepted : decode [0x61, 0xED, 0xA0, 0x80] ⟨0, 4⟩ .accept =
      .ok [.ofChar 'a', ⟨0xD800, by decide⟩] := by cbv
  have rejected : decode [0x61, 0xED, 0xA0, 0x80] ⟨0, 1⟩ .reject = .ok [.ofChar 'a'] := by cbv
  have failed : decode [0xED, 0xA0, 0x80, 0xFF] ⟨0, 4⟩ .accept = .error (.invalidWtf8 3) := by cbv
  obtain ⟨_, _, repaired, _⟩ := policies_agree [0x61, 0xED, 0xA0, 0x80] ⟨0, 4⟩ (by decide)
  obtain ⟨_, replaced, _⟩ := policies_agree [0x61, 0xED, 0xA0, 0x80] ⟨0, 1⟩ (by decide)
  obtain ⟨_, _, _, earlier⟩ := policies_agree [0xED, 0xA0, 0x80, 0xFF] ⟨0, 4⟩ (by decide)
  exact ⟨accepted, (repaired _ accepted).1, (repaired _ accepted).2 rfl, rejected,
    replaced _ rejected, failed, earlier _ failed⟩

end Wobbly
