import Wobbly.Proofs.Pairs
import Wobbly.Proofs.Run

/-! Writing and reading back. Under the policy that keeps surrogates, the code
points that may stand side by side are the ones without a split pair, and that
is what grouping leaves. So every sequence is read back with its pairs joined,
and every text that is read at all is written back byte for byte. -/
namespace Wobbly
open CodePoint Reading Sequence Decoding Encoding

theorem trail_surrogate (point : CodePoint) (trail : point.isTrail = true) :
    point.isSurrogate = true := by
  rw [surrogate_halves, trail, Bool.or_true]

/-- Keeping surrogates, only a trail right behind a lead is unwelcome. -/
theorem welcome_accept_iff (afterLead : Bool) (point : CodePoint) :
    welcome .accept afterLead point = true ↔ ¬(afterLead = true ∧ point.isTrail = true) := by
  cases trail : point.isTrail with
  | false => simp [welcome, trail]
  | true => simp [welcome, trail, trail_surrogate point trail]

theorem admitted_accept_cons_iff (first : CodePoint) (rest : List CodePoint) :
    Admitted .accept first.isLead rest ↔ PairFree (first :: rest) := by
  induction rest generalizing first with
  | nil => exact ⟨fun _ => List.IsChain.singleton first, fun _ => trivial⟩
  | cons second rest ih =>
      rw [Admitted, welcome_accept_iff, ih second, pairFree_cons_cons]
      rfl

/-- The flag that a walk carries is all it needs to see every split pair. -/
theorem admitted_accept_iff (points : List CodePoint) :
    Admitted .accept false points ↔ PairFree points := by
  cases points with
  | nil => exact ⟨fun _ => List.IsChain.nil, fun _ => trivial⟩
  | cons first rest =>
      rw [Admitted, admitted_accept_cons_iff, welcome_accept_iff]
      simp

theorem decode_accept_iff (buffer : List UInt8) (span : Span) (points : List CodePoint) :
    decode buffer span .accept = .ok points ↔
      (span.start ≤ span.stop ∧ span.stop ≤ buffer.length) ∧
        span.window buffer = points.flatMap CodePoint.bytes ∧ PairFree points := by
  rw [decode_strict_iff buffer span .accept points (by decide), admitted_accept_iff]

theorem decodeAll_accept_iff (bytes : List UInt8) (points : List CodePoint) :
    decodeAll bytes .accept = .ok points ↔
      bytes = points.flatMap CodePoint.bytes ∧ PairFree points := by
  rw [decodeAll_window, strict_ok_iff (by decide), admitted_accept_iff]

theorem encode_of_pairFree (points : List CodePoint) (free : PairFree points) :
    encode points = points.flatMap CodePoint.bytes := by
  rw [encode, grouped_of_pairFree points free]

theorem widths_length (points : List CodePoint) :
    points.foldr (fun point total => point.width + total) 0 =
      (points.flatMap CodePoint.bytes).length := by
  induction points with
  | nil => rfl
  | cons point rest ih =>
      rw [List.foldr_cons, ih, List.flatMap_cons, List.length_append, bytes_length]

theorem encodedLength_exact (points : List CodePoint) :
    encodedLength points = (encode points).length := widths_length (grouped points)

theorem encode_grouped (points : List CodePoint) :
    decodeAll (encode points) .accept = .ok (grouped points) :=
  (decodeAll_accept_iff _ _).mpr ⟨rfl, grouped_pairFree points⟩

/-- Every sequence has an encoding that reads back, with its pairs joined as
they are when the sequence passes through 16-bit units. It comes back unchanged
if and only if no lead stood right before a trail. -/
theorem encode_reads_back (points : List CodePoint) :
    decodeAll (encode points) .accept = .ok (Units.join (Units.split points)) ∧
      (decodeAll (encode points) .accept = .ok points ↔ PairFree points) := by
  rw [encode_grouped]
  constructor
  · rw [Units.grouped_normalize]
    rfl
  · rw [← grouped_fixed_iff, Except.ok.injEq]

/-- Accepted bytes are the encoding of what they decode to, and nothing else
decodes to the same. -/
theorem accepted_is_encoding (buffer : List UInt8) (span : Span) (points : List CodePoint)
    (accepted : decode buffer span .accept = .ok points) :
    (span.start ≤ span.stop ∧ span.stop ≤ buffer.length) ∧
      encode points = (buffer.drop span.start).take (span.stop - span.start) ∧
      ∀ other otherSpan, decode other otherSpan .accept = .ok points →
        otherSpan.window other = span.window buffer := by
  obtain ⟨placed, row, free⟩ := (decode_accept_iff buffer span points).mp accepted
  refine ⟨placed, ?_, ?_⟩
  · rw [encode_of_pairFree points free, ← row]
    rfl
  · intro other otherSpan again
    obtain ⟨_, otherRow, _⟩ := (decode_accept_iff other otherSpan points).mp again
    rw [otherRow, row]

theorem accepted_is_encoding_lone_lead :
    decode [0x61, 0xED, 0xA0, 0x80, 0xF0, 0x90, 0x80, 0x80, 0xFF] ⟨1, 8⟩ .accept =
        .ok [⟨0xD800, by decide⟩, ⟨0x10000, by decide⟩] ∧
      encode [⟨0xD800, by decide⟩, ⟨0x10000, by decide⟩] =
        [0xED, 0xA0, 0x80, 0xF0, 0x90, 0x80, 0x80] := by
  have accepted : decode [0x61, 0xED, 0xA0, 0x80, 0xF0, 0x90, 0x80, 0x80, 0xFF] ⟨1, 8⟩ .accept =
      .ok [⟨0xD800, by decide⟩, ⟨0x10000, by decide⟩] := by cbv
  exact ⟨accepted, (accepted_is_encoding _ _ _ accepted).2.1⟩

end Wobbly
