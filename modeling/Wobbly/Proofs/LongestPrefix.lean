import Wobbly.Proofs.Run

/-! Where strict reading stops. Cutting a window inside a sequence makes it
unreadable, and a longer cut may be readable again, so the readable lengths have
gaps. A walk still stops behind the greatest of them: everything up to the stop
was read, and code points that fill more of the window would have to spell at
the stop something that the walk found unreadable there. -/
namespace Wobbly
open CodePoint

namespace Reading
variable {policy : Policy} {offset position : Nat} {afterLead : Bool} {window : List UInt8}
  {pieces : List Piece}

/-- The bytes before a stop are those of the code points that were kept. -/
theorem run_stopped_front (run : Run policy offset afterLead window pieces (some position)) :
    ∃ length, position = offset + length ∧ length < window.length ∧
      window.take length = (pieces.map Piece.point).flatMap CodePoint.bytes ∧
      Admitted policy afterLead (pieces.map Piece.point) := by
  have strict := run_stopped_strict run
  generalize ending : some position = stopped at run
  induction run with
  | done => cases ending
  | keep point kept _ ih =>
      obtain ⟨length, place, short, row, admitted⟩ := ih ending
      refine ⟨point.width + length, ?_, ?_, ?_, kept, admitted⟩
      · rw [place, Nat.add_assoc]
      · rw [List.length_append, bytes_length]
        exact Nat.add_lt_add_left short _
      · rw [← bytes_length, List.take_length_add_append, row]
        rfl
  | replace replacing _ _ _ => exact absurd replacing strict
  | stop _ _ =>
      cases ending
      exact ⟨0, rfl, Nat.succ_pos _, rfl, trivial⟩

theorem run_stopped_le (run : Run policy offset afterLead window pieces (some position)) :
    offset ≤ position := by
  obtain ⟨length, place, _⟩ := run_stopped_front run
  rw [place]
  exact Nat.le_add_right offset length

theorem run_stopped_longest (run : Run policy offset afterLead window pieces (some position))
    (points : List CodePoint) (admitted : Admitted policy afterLead points)
    (front : points.flatMap CodePoint.bytes <+: window) :
    offset + (points.flatMap CodePoint.bytes).length ≤ position := by
  have strict := run_stopped_strict run
  generalize ending : some position = stopped at run
  induction run generalizing points with
  | done => cases ending
  | @keep offset _ rest _ _ point _ later ih =>
      cases ending
      cases points with
      | nil =>
          have reached := run_stopped_le later
          exact Nat.le_trans (Nat.le_add_right offset point.width) reached
      | cons first others =>
          rw [List.flatMap_cons] at front ⊢
          -- Both rows start at the same byte, and one code point at most is spelled there.
          obtain rfl := bytes_front_unique first point rest ((List.prefix_append _ _).trans front)
          have further := ih others admitted.2 ((List.prefix_append_right_inj _).mp front) rfl
          rw [List.length_append, bytes_length, ← Nat.add_assoc]
          exact further
  | replace replacing _ _ _ => exact absurd replacing strict
  | stop _ unreadable =>
      cases ending
      cases points with
      | nil => exact Nat.le_refl _
      | cons first others =>
          rw [List.flatMap_cons] at front
          have refused := unreadable first ((List.prefix_append _ _).trans front)
          rw [admitted.1] at refused
          cases refused

end Reading

namespace Decoding
open Reading

/-- How many bytes from the start of a span may be cut out and still be read. -/
def ReadableLengths (buffer : List UInt8) (span : Span) (policy : Policy) : Set Nat :=
  {length | length ≤ span.stop - span.start ∧
    ∃ points, decode buffer ⟨span.start, span.start + length⟩ policy = .ok points}

theorem window_take (buffer : List UInt8) (span : Span) (length : Nat)
    (short : length ≤ span.stop - span.start) :
    Span.window ⟨span.start, span.start + length⟩ buffer = (span.window buffer).take length := by
  unfold Span.window
  rw [Nat.add_sub_cancel_left, List.take_take, Nat.min_eq_left short]

theorem window_length (buffer : List UInt8) (span : Span)
    (placed : span.start ≤ span.stop ∧ span.stop ≤ buffer.length) :
    (span.window buffer).length = span.stop - span.start := by
  unfold Span.window
  rw [List.length_take, List.length_drop]
  omega

/-- A readable length is the length of a row of admitted code points. -/
theorem readable_iff (buffer : List UInt8) (span : Span) (policy : Policy) (length : Nat)
    (strict : policy ≠ .replace) (placed : span.start ≤ span.stop ∧ span.stop ≤ buffer.length) :
    length ∈ ReadableLengths buffer span policy ↔ length ≤ span.stop - span.start ∧
      ∃ points, (span.window buffer).take length = points.flatMap CodePoint.bytes ∧
        Admitted policy false points := by
  refine and_congr_right fun short => exists_congr fun points => ?_
  rw [decode_strict_iff _ _ _ _ strict, window_take buffer span length short]
  refine and_iff_right ⟨Nat.le_add_right _ _, ?_⟩
  change span.start + length ≤ buffer.length
  omega

theorem stopped_greatest (buffer : List UInt8) (span : Span) (policy : Policy)
    (placed : span.start ≤ span.stop ∧ span.stop ≤ buffer.length) (pieces : List Piece)
    (position : Nat)
    (run : Run policy span.start false (span.window buffer) pieces (some position)) :
    ∃ length, position = span.start + length ∧ length < span.stop - span.start ∧
      IsGreatest (ReadableLengths buffer span policy) length := by
  have strict := run_stopped_strict run
  obtain ⟨length, place, short, row, admitted⟩ := run_stopped_front run
  rw [window_length buffer span placed] at short
  refine ⟨length, place, short, ?_, ?_⟩
  · rw [readable_iff buffer span policy length strict placed]
    exact ⟨Nat.le_of_lt short, _, row, admitted⟩
  · intro other readable
    obtain ⟨within, points, otherRow, otherAdmitted⟩ :=
      (readable_iff buffer span policy other strict placed).mp readable
    have front : points.flatMap CodePoint.bytes <+: span.window buffer := by
      rw [← otherRow]
      exact List.take_prefix other _
    have reached := run_stopped_longest run points otherAdmitted front
    rw [← otherRow, List.length_take, window_length buffer span placed,
      Nat.min_eq_left within] at reached
    omega

theorem failed_greatest (buffer : List UInt8) (span : Span) (policy : Policy)
    (error : DecodeError) (placed : span.start ≤ span.stop ∧ span.stop ≤ buffer.length)
    (failed : decode buffer span policy = .error error) :
    ∃ length, length < span.stop - span.start ∧
      IsGreatest (ReadableLengths buffer span policy) length ∧
      DecodeError.malformed? policy (span.start + length) = some error := by
  rw [decode_placed buffer span policy placed, decodeWindow_error_iff] at failed
  obtain ⟨pieces, position, run, malformed⟩ := failed
  obtain ⟨length, rfl, short, greatest⟩ :=
    stopped_greatest buffer span policy placed pieces position run
  exact ⟨length, short, greatest, malformed⟩

theorem malformed_iff (policy : Policy) (position : Nat) (error : DecodeError) :
    DecodeError.malformed? policy position = some error ↔
      policy = .accept ∧ error = .invalidWtf8 position ∨
        policy = .reject ∧ error = .invalidUtf8 position := by
  cases policy <;> simp [DecodeError.malformed?, eq_comm]

/-- Reading a span fails exactly if its whole length is not readable, and the
error of the policy then names the byte behind the greatest readable length. -/
theorem failure_behind_longest_readable (buffer : List UInt8) (span : Span) (policy : Policy)
    (error : DecodeError) (placed : span.start ≤ span.stop ∧ span.stop ≤ buffer.length) :
    decode buffer span policy = .error error ↔
      ∃ length, length < span.stop - span.start ∧
        IsGreatest (ReadableLengths buffer span policy) length ∧
        (policy = .accept ∧ error = .invalidWtf8 (span.start + length) ∨
          policy = .reject ∧ error = .invalidUtf8 (span.start + length)) := by
  simp only [← malformed_iff]
  constructor
  · exact failed_greatest buffer span policy error placed
  · rintro ⟨length, short, greatest, malformed⟩
    cases result : decode buffer span policy with
    | ok points =>
        have whole : span.stop - span.start ∈ ReadableLengths buffer span policy := by
          refine ⟨Nat.le_refl _, points, ?_⟩
          rw [Nat.add_sub_cancel' placed.1]
          exact result
        exact absurd (greatest.2 whole) (Nat.not_le_of_gt short)
    | error blamed =>
        obtain ⟨other, _, otherGreatest, otherMalformed⟩ :=
          failed_greatest buffer span policy blamed placed result
        rw [otherGreatest.unique greatest, malformed] at otherMalformed
        rw [Option.some.inj otherMalformed]

-- The trail is blamed and not the lead before it, which could be read.
theorem failure_behind_longest_readable_split_pair :
    decode [0x61, 0x78, 0xED, 0xA0, 0x80, 0xED, 0xB0, 0x80, 0x62] ⟨1, 9⟩ .accept =
        .error (.invalidWtf8 5) ∧
      IsGreatest (ReadableLengths [0x61, 0x78, 0xED, 0xA0, 0x80, 0xED, 0xB0, 0x80, 0x62] ⟨1, 9⟩
        .accept) 4 := by
  have failed : decode [0x61, 0x78, 0xED, 0xA0, 0x80, 0xED, 0xB0, 0x80, 0x62] ⟨1, 9⟩ .accept =
      .error (.invalidWtf8 5) := by cbv
  obtain ⟨length, _, greatest, ⟨_, blamed⟩ | ⟨impossible, _⟩⟩ :=
    (failure_behind_longest_readable _ _ _ _ (by decide)).mp failed
  · simp only [DecodeError.invalidWtf8.injEq] at blamed
    obtain rfl : length = 4 := by omega
    exact ⟨failed, greatest⟩
  · cases impossible

end Decoding
end Wobbly
