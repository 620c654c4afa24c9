import Wobbly.Proofs.LongestPrefix

/-! Decoding sees the bytes inside its span and nothing else. The offset that a
walk carries only names positions: starting elsewhere moves every piece and the
stop by the same distance and changes no decision. Validating walks the same run
and keeps less of it, so the two fail alike. A misplaced span fails before any
byte is read. -/
namespace Wobbly
open Reading Decoding

namespace Span

def moved (distance : Nat) (span : Span) : Span :=
  ⟨span.start + distance, span.stop + distance⟩

theorem placement_moved (span : Span) (length distance : Nat) :
    (span.moved distance).placement (length + distance) = span.placement length := by
  simp only [placement, moved, Nat.add_lt_add_iff_right]

theorem blamed_moved (span : Span) (length distance : Nat) :
    (span.moved distance).blamed (length + distance) = span.blamed length + distance := by
  unfold blamed
  rw [placement_moved]
  cases span.placement length <;> rfl

theorem blamed_exact (span : Span) (length : Nat) :
    span.blamed length =
      if span.start ≤ length ∧ length < span.stop then length else span.start := by
  unfold blamed placement
  by_cases early : length < span.start
  · simp [early, Nat.not_le_of_gt early]
  · by_cases late : length < span.stop
    · simp [early, late, Nat.le_of_not_lt early]
    · by_cases reversed : span.stop < span.start <;> simp [early, late, reversed]

end Span

namespace DecodeError

def moved (distance : Nat) : DecodeError → DecodeError
  | .invalidWtf8 offset => .invalidWtf8 (offset + distance)
  | .invalidUtf8 offset => .invalidUtf8 (offset + distance)
  | .outOfBounds span length => .outOfBounds (span.moved distance) (length + distance)

theorem offset_moved (distance : Nat) (error : DecodeError) :
    (error.moved distance).offset = error.offset + distance := by
  cases error with
  | invalidWtf8 offset => rfl
  | invalidUtf8 offset => rfl
  | outOfBounds span length => exact Span.blamed_moved span length distance

theorem malformed_moved (policy : Policy) (offset distance : Nat) :
    malformed? policy (offset + distance) = (malformed? policy offset).map (moved distance) := by
  cases policy <;> rfl

end DecodeError

def Piece.moved (distance : Nat) : Piece → Piece
  | .kept offset point => .kept (offset + distance) point
  | .replaced offset byte => .replaced (offset + distance) byte

namespace Reading
variable {policy : Policy} {offset : Nat} {afterLead : Bool} {window : List UInt8}
  {pieces : List Piece} {stopped : Option Nat}

theorem points_moved (distance : Nat) (pieces : List Piece) :
    (pieces.map (Piece.moved distance)).map Piece.point = pieces.map Piece.point := by
  rw [List.map_map]
  apply List.map_congr_left
  intro piece _
  cases piece <;> rfl

theorem run_moved (distance : Nat) (run : Run policy offset afterLead window pieces stopped) :
    Run policy (offset + distance) afterLead window (pieces.map (Piece.moved distance))
      (stopped.map (· + distance)) := by
  induction run with
  | done => exact Run.done
  | keep point kept _ ih =>
      rw [Nat.add_right_comm] at ih
      exact Run.keep point kept ih
  | replace replacing unreadable _ ih =>
      rw [Nat.add_right_comm] at ih
      exact Run.replace replacing unreadable ih
  | stop strict unreadable => exact Run.stop strict unreadable

end Reading

namespace Decoding
variable {Value : Type} {policy : Policy} {start : Nat} {window : List UInt8}
  {pieces : List Piece} {stopped : Option Nat}

-- What a walk returns, whatever was reported on the way.
def outcome (policy : Policy) (value : Value) (stopped : Option Nat) : Except DecodeError Value :=
  match stopped.bind (DecodeError.malformed? policy) with
  | some error => .error error
  | none => .ok value

theorem conclude_result (policy : Policy) (value : Value) (notices : List Notice)
    (stopped : Option Nat) :
    (conclude policy value notices (stopped.bind (stopAt policy))).result =
      outcome policy value stopped := by
  cases stopped with
  | none => rfl
  | some position =>
      rw [outcome, Option.bind_some, Option.bind_some, stopAt]
      cases DecodeError.malformed? policy position <;> rfl

theorem outcome_map {Other : Type} (policy : Policy) (change : Value → Other) (value : Value)
    (stopped : Option Nat) :
    outcome policy (change value) stopped = (outcome policy value stopped).map change := by
  unfold outcome
  cases stopped.bind (DecodeError.malformed? policy) <;> rfl

theorem outcome_moved (policy : Policy) (value : Value) (stopped : Option Nat) (distance : Nat) :
    outcome policy value (stopped.map (· + distance)) =
      (outcome policy value stopped).mapError (DecodeError.moved distance) := by
  cases stopped with
  | none => rfl
  | some position =>
      unfold outcome
      rw [Option.map_some, Option.bind_some, Option.bind_some, DecodeError.malformed_moved]
      cases DecodeError.malformed? policy position <;> rfl

theorem decodeWindow_result (run : Run policy start false window pieces stopped) :
    (decodeWindow policy start window).result =
      outcome policy (pieces.map Piece.point) stopped := by
  rw [decodeWindow_run run, conclude_result]

theorem validateWindow_result (run : Run policy start false window pieces stopped) :
    (validateWindow policy start window).result = outcome policy () stopped := by
  unfold validateWindow
  rw [run_walk run note [], conclude_result]

theorem decodeWindow_moved (policy : Policy) (start distance : Nat) (window : List UInt8) :
    (decodeWindow policy (start + distance) window).result =
      (decodeWindow policy start window).result.mapError (DecodeError.moved distance) := by
  obtain ⟨pieces, stopped, run⟩ := run_exists policy start false window
  rw [decodeWindow_result run, decodeWindow_result (run_moved distance run), points_moved,
    outcome_moved]

theorem validateWindow_exact (policy : Policy) (start : Nat) (window : List UInt8) :
    (validateWindow policy start window).result =
      (decodeWindow policy start window).result.map fun _ => () := by
  obtain ⟨pieces, stopped, run⟩ := run_exists policy start false window
  rw [validateWindow_result run, decodeWindow_result run, ← outcome_map]

theorem within_misplaced (buffer : List UInt8) (span : Span)
    (run : Nat → List UInt8 → Traced Value)
    (misplaced : ¬(span.start ≤ span.stop ∧ span.stop ≤ buffer.length)) :
    within buffer span run = ⟨.error (.outOfBounds span buffer.length), []⟩ := by
  rw [← within_iff] at misplaced
  unfold within slice
  cases place : span.placement buffer.length with
  | within => exact absurd place misplaced
  | startBeyond => rfl
  | stopBeyond => rfl
  | reversed => rfl

theorem decode_moved (buffer : List UInt8) (span : Span) (policy : Policy)
    (placed : span.start ≤ span.stop ∧ span.stop ≤ buffer.length) :
    decode buffer span policy =
      (decodeAll (span.window buffer) policy).mapError (DecodeError.moved span.start) := by
  rw [decode_placed buffer span policy placed, decodeAll_window, ← decodeWindow_moved,
    Nat.zero_add]

theorem validate_exact (buffer : List UInt8) (span : Span) (policy : Policy)
    (placed : span.start ≤ span.stop ∧ span.stop ≤ buffer.length) :
    validate buffer span policy = (decode buffer span policy).map fun _ => () := by
  unfold validate validateTraced
  rw [within_placed buffer span _ placed, decode_placed buffer span policy placed,
    validateWindow_exact]

theorem window_agree (buffer other : List UInt8) (span : Span)
    (same : ∀ position, span.start ≤ position → position < span.stop →
      other[position]? = buffer[position]?) :
    span.window other = span.window buffer := by
  apply List.ext_getElem?
  intro index
  unfold Span.window
  rw [List.getElem?_take, List.getElem?_take]
  split
  · rw [List.getElem?_drop, List.getElem?_drop]
    exact same _ (by omega) (by omega)
  · rfl

theorem decodeAll_offset_lt (bytes : List UInt8) (policy : Policy) (error : DecodeError)
    (failed : decodeAll bytes policy = .error error) : error.offset < bytes.length := by
  rw [decodeAll_window, decodeWindow_error_iff] at failed
  obtain ⟨pieces, position, run, malformed⟩ := failed
  obtain ⟨length, place, short, _⟩ := run_stopped_front run
  rw [malformed_offset malformed]
  omega

theorem decode_offset_inside (buffer : List UInt8) (span : Span) (policy : Policy)
    (error : DecodeError) (placed : span.start ≤ span.stop ∧ span.stop ≤ buffer.length)
    (failed : decode buffer span policy = .error error) :
    span.start ≤ error.offset ∧ error.offset < span.stop := by
  rw [decode_moved buffer span policy placed] at failed
  cases inner : decodeAll (span.window buffer) policy with
  | ok points =>
      rw [inner] at failed
      cases failed
  | error cause =>
      rw [inner] at failed
      cases failed
      have short := decodeAll_offset_lt _ policy cause inner
      rw [window_length buffer span placed] at short
      rw [DecodeError.offset_moved]
      omega

theorem replace_reads (buffer : List UInt8) (span : Span)
    (placed : span.start ≤ span.stop ∧ span.stop ≤ buffer.length) :
    ∃ points, decode buffer span .replace = .ok points := by
  obtain ⟨pieces, run⟩ := replace_run span.start false (span.window buffer)
  rw [decode_placed buffer span .replace placed, decodeWindow_result run]
  exact ⟨_, rfl⟩

/-- A span that does not fit is refused with the first index that is wrong in it,
whatever the bytes and the policy are. A span that fits is read as if its bytes
were the whole buffer, with offsets moved by its start: other bytes do not matter,
only a byte inside is ever blamed, replacing blames none, and validating fails
exactly where decoding does. -/
theorem decoding_sees_only_span (buffer : List UInt8) (span : Span) (policy : Policy) :
    (¬(span.start ≤ span.stop ∧ span.stop ≤ buffer.length) →
      decode buffer span policy = .error (.outOfBounds span buffer.length) ∧
      validate buffer span policy = .error (.outOfBounds span buffer.length) ∧
      (DecodeError.outOfBounds span buffer.length).offset =
        if span.start ≤ buffer.length ∧ buffer.length < span.stop then buffer.length
        else span.start) ∧
    (span.start ≤ span.stop ∧ span.stop ≤ buffer.length →
      decode buffer span policy =
        (decodeAll ((buffer.drop span.start).take (span.stop - span.start)) policy).mapError
          (DecodeError.moved span.start) ∧
      (∀ other : List UInt8, span.stop ≤ other.length →
        (∀ position, span.start ≤ position → position < span.stop →
          other[position]? = buffer[position]?) →
        decode other span policy = decode buffer span policy) ∧
      (∀ error, decode buffer span policy = .error error →
        span.start ≤ error.offset ∧ error.offset < span.stop) ∧
      (policy = .replace → ∃ points, decode buffer span policy = .ok points) ∧
      validate buffer span policy = (decode buffer span policy).map fun _ => ()) := by
  constructor
  · intro misplaced
    refine ⟨?_, ?_, Span.blamed_exact span buffer.length⟩
    · rw [decode, decodeTraced, within_misplaced buffer span _ misplaced]
    · rw [validate, validateTraced, within_misplaced buffer span _ misplaced]
  · intro placed
    refine ⟨decode_moved buffer span policy placed, ?_, ?_, ?_,
      validate_exact buffer span policy placed⟩
    · intro other long same
      rw [decode_moved other span policy ⟨placed.1, long⟩, decode_moved buffer span policy placed,
        window_agree buffer other span same]
    · intro error failed
      exact decode_offset_inside buffer span policy error placed failed
    · rintro rfl
      exact replace_reads buffer span placed

-- Two buffers that differ only outside the span, and a span with the greatest 64-bit end.
theorem decoding_sees_only_span_split_pair :
    decode [0x61, 0xED, 0xA0, 0x80, 0xED, 0xB0, 0x80] ⟨1, 7⟩ .accept = .error (.invalidWtf8 4) ∧
      decode [0xFF, 0xED, 0xA0, 0x80, 0xED, 0xB0, 0x80, 0x80] ⟨1, 7⟩ .accept =
        .error (.invalidWtf8 4) ∧
      (1 ≤ 4 ∧ 4 < 7) ∧
      validate [0x61, 0xED, 0xA0, 0x80, 0xED, 0xB0, 0x80] ⟨1, 7⟩ .accept =
        .error (.invalidWtf8 4) ∧
      (∃ points, decode [0x61, 0xED, 0xA0, 0x80, 0xED, 0xB0, 0x80] ⟨1, 7⟩ .replace =
        .ok points) ∧
      decode [0xFF, 0xED, 0xA0, 0x80, 0xED, 0xB0, 0x80, 0x80] ⟨1, 7⟩ .replace =
        .ok [.replacement, .replacement, .replacement, .replacement, .replacement,
          .replacement] ∧
      decode [0x61, 0xED, 0xA0, 0x80, 0xED, 0xB0, 0x80] ⟨1, 4⟩ .accept =
        .ok [⟨0xD800, by decide⟩] ∧
      decode [0x61] ⟨0, 0xFFFFFFFFFFFFFFFF⟩ .replace =
        .error (.outOfBounds ⟨0, 0xFFFFFFFFFFFFFFFF⟩ 1) ∧
      (DecodeError.outOfBounds ⟨0, 0xFFFFFFFFFFFFFFFF⟩ 1).offset = 1 := by
  have failed : decode [0x61, 0xED, 0xA0, 0x80, 0xED, 0xB0, 0x80] ⟨1, 7⟩ .accept =
      .error (.invalidWtf8 4) := by cbv
  have alone : decodeAll [0xED, 0xA0, 0x80] .accept = .ok [⟨0xD800, by decide⟩] := by cbv
  have agree : ∀ position, 1 ≤ position → position < 7 →
      ([0xFF, 0xED, 0xA0, 0x80, 0xED, 0xB0, 0x80, 0x80] : List UInt8)[position]? =
        ([0x61, 0xED, 0xA0, 0x80, 0xED, 0xB0, 0x80] : List UInt8)[position]? := by
    intro position low high
    interval_cases position <;> rfl
  obtain ⟨_, seen, inside, _, checked⟩ :=
    (decoding_sees_only_span [0x61, 0xED, 0xA0, 0x80, 0xED, 0xB0, 0x80] ⟨1, 7⟩ .accept).2
      (by decide)
  obtain ⟨_, same, _, replaced, _⟩ :=
    (decoding_sees_only_span [0x61, 0xED, 0xA0, 0x80, 0xED, 0xB0, 0x80] ⟨1, 7⟩ .replace).2
      (by decide)
  obtain ⟨whole, _⟩ :=
    (decoding_sees_only_span [0x61, 0xED, 0xA0, 0x80, 0xED, 0xB0, 0x80] ⟨1, 4⟩ .accept).2
      (by decide)
  obtain ⟨refused, _, blamed⟩ :=
    (decoding_sees_only_span [0x61] ⟨0, 0xFFFFFFFFFFFFFFFF⟩ .replace).1 (by decide)
  rw [failed] at seen checked
  exact ⟨failed, seen _ (by decide) agree, inside _ failed, checked, replaced rfl,
    (same _ (by decide) agree).trans (by cbv),
    whole.trans (congrArg (Except.mapError (DecodeError.moved 1)) alone), refused, blamed⟩

end Decoding
end Wobbly
