import Wobbly.Ending
import Wobbly.Proofs.Policies
import Wobbly.Proofs.Spans

/-! What a walk reports accounts for every byte. Each piece was read from bytes of
its own, the pieces stand one behind the other, and together their bytes are the
window. Replaced bytes are reported where they stand, kept code points are not, so
the report tells a replacement character that was read from one that was put in
place of a byte. Strict reading replaces nothing and reports only its failure. -/
namespace Wobbly
open CodePoint Reading Decoding Grammar

namespace Piece

def offset : Piece → Nat
  | .kept offset _ => offset
  | .replaced offset _ => offset

def source : Piece → List UInt8
  | .kept _ point => point.bytes
  | .replaced _ byte => [byte]

def notice? : Piece → Option Notice
  | .kept _ _ => none
  | .replaced offset byte => some (.replaced offset byte)

theorem source_length (piece : Piece) : 1 ≤ piece.source.length ∧ piece.source.length ≤ 4 := by
  cases piece with
  | kept offset point =>
      rw [source, bytes_length]
      exact ⟨width_pos point, width_le_four point⟩
  | replaced offset byte => simp [source]

end Piece

def Notice.offset : Notice → Nat
  | .replaced offset _ => offset
  | .failed _ offset _ => offset

namespace Reading
variable {policy : Policy} {offset : Nat} {afterLead : Bool} {window : List UInt8}
  {pieces : List Piece} {stopped : Option Nat}

theorem run_sources (run : Run policy offset afterLead window pieces none) :
    pieces.flatMap Piece.source = window := by
  generalize ending : none = stopped at run
  induction run with
  | done => rfl
  | keep point _ _ ih =>
      rw [List.flatMap_cons, ih ending]
      rfl
  | replace _ _ _ ih =>
      rw [List.flatMap_cons, ih ending]
      rfl
  | stop _ _ => cases ending

theorem run_offset_le (run : Run policy offset afterLead window pieces stopped) :
    ∀ piece ∈ pieces, offset ≤ piece.offset := by
  induction run with
  | done => simp
  | keep point _ _ ih =>
      refine List.forall_mem_cons.mpr ⟨Nat.le_refl _, ?_⟩
      intro piece member
      exact Nat.le_trans (Nat.le_add_right _ _) (ih piece member)
  | replace _ _ _ ih =>
      refine List.forall_mem_cons.mpr ⟨Nat.le_refl _, ?_⟩
      intro piece member
      exact Nat.le_trans (Nat.le_add_right _ _) (ih piece member)
  | stop _ _ => simp

/-- Every piece stands behind the ones before it. -/
theorem run_increasing (run : Run policy offset afterLead window pieces stopped) :
    (pieces.map Piece.offset).Pairwise (· < ·) := by
  induction run with
  | done => exact .nil
  | keep point _ later ih =>
      rw [List.map_cons, List.pairwise_cons, List.forall_mem_map]
      refine ⟨?_, ih⟩
      intro piece member
      exact Nat.lt_of_lt_of_le (Nat.lt_add_of_pos_right (width_pos point))
        (run_offset_le later piece member)
  | replace _ _ later ih =>
      rw [List.map_cons, List.pairwise_cons, List.forall_mem_map]
      refine ⟨?_, ih⟩
      intro piece member
      exact run_offset_le later piece member
  | stop _ _ => exact .nil

theorem run_strict_silent (strict : policy ≠ .replace)
    (run : Run policy offset afterLead window pieces stopped) :
    pieces.filterMap Piece.notice? = [] := by
  induction run with
  | done => rfl
  | keep _ _ _ ih => exact ih
  | replace replacing _ _ _ => exact absurd replacing strict
  | stop _ _ => rfl

end Reading

namespace Grammar

/-- No character stands at the position or reaches over it. -/
def Damaged (window : List UInt8) (position : Nat) : Prop :=
  (∀ char, ¬Spelled window position char) ∧ ¬Inside window position

theorem damaged_iff (window : List UInt8) (position : Nat) :
    Damaged window position ↔
      scalarAt? window position = none ∧ covered window position = false := by
  rw [Damaged, ← covered_inside_iff, Bool.not_eq_true, Option.eq_none_iff_forall_ne_some]
  refine and_congr_left' ⟨?_, ?_⟩
  · intro unspelled found starts
    obtain ⟨char, spelled, _⟩ := (scalarAt_spelled_iff window position found).mp starts
    exact unspelled char spelled
  · intro silent char spelled
    exact silent _ ((scalarAt_spelled_iff window position _).mpr ⟨char, spelled, rfl⟩)

/-- What stands before a closed seam does not change which bytes behind it are damaged. -/
theorem damaged_append (front rest : List UInt8) (closed : Closed front rest) (position : Nat) :
    Damaged (front ++ rest) (front.length + position) ↔ Damaged rest position := by
  rw [damaged_iff, damaged_iff, scalarAt_append, covered_append front rest closed]

theorem bytes_undamaged (point : CodePoint) (rest : List UInt8)
    (scalar : point.isSurrogate = false) (position : Nat) (inside : position < point.width) :
    ¬Damaged (point.bytes ++ rest) position := by
  rw [damaged_iff]
  rintro ⟨silent, exposed⟩
  cases position with
  | zero =>
      rw [scalarAt_bytes point rest scalar] at silent
      cases silent
  | succ position =>
      rw [covered_bytes point rest scalar position inside] at exposed
      cases exposed

end Grammar

namespace Reading
variable {offset : Nat} {afterLead : Bool} {window : List UInt8} {pieces : List Piece}
  {stopped : Option Nat}

/-- The bytes that are replaced are the damaged ones. -/
theorem run_replaced_iff (run : Run .replace offset afterLead window pieces stopped) (place : Nat)
    (byte : UInt8) : .replaced place byte ∈ pieces ↔
      ∃ position, place = offset + position ∧ window[position]? = some byte ∧
        Damaged window position := by
  induction run with
  | done => simp
  | @keep offset _ rest _ _ point kept _ ih =>
      have scalar : point.isSurrogate = false := by simpa [welcome] using kept
      have closed := closed_bytes point rest scalar
      rw [List.mem_cons, or_iff_right (by simp), ih]
      constructor
      · rintro ⟨position, rfl, found, damaged⟩
        refine ⟨point.bytes.length + position, ?_, ?_, ?_⟩
        · rw [bytes_length, Nat.add_assoc]
        · rwa [List.getElem?_append_right (Nat.le_add_right _ _), Nat.add_sub_cancel_left]
        · rwa [damaged_append _ _ closed]
      · rintro ⟨position, rfl, found, damaged⟩
        -- The bytes of the kept form are whole, so a damaged one stands behind them.
        by_cases inside : position < point.width
        · exact absurd damaged (bytes_undamaged point rest scalar position inside)
        · obtain ⟨further, rfl⟩ := Nat.exists_eq_add_of_le (Nat.le_of_not_lt inside)
          rw [← bytes_length] at found damaged
          rw [List.getElem?_append_right (Nat.le_add_right _ _), Nat.add_sub_cancel_left] at found
          rw [damaged_append _ _ closed] at damaged
          exact ⟨further, (Nat.add_assoc _ _ _).symm, found, damaged⟩
  | @replace offset _ first rest _ _ _ unreadable _ ih =>
      have silent := unreadable_silent _ _ unreadable
      have closed := closed_damaged first rest silent
      rw [List.mem_cons, ih]
      constructor
      · rintro (same | ⟨position, rfl, found, damaged⟩)
        · cases same
          exact ⟨0, rfl, rfl, (damaged_iff _ 0).mpr ⟨silent, rfl⟩⟩
        · refine ⟨1 + position, Nat.add_assoc _ _ _, ?_,
            (damaged_append _ _ closed _).mpr damaged⟩
          rwa [Nat.add_comm, List.getElem?_cons_succ]
      · rintro ⟨position, rfl, found, damaged⟩
        cases position with
        | zero =>
            cases found
            exact Or.inl rfl
        | succ position =>
            rw [List.getElem?_cons_succ] at found
            rw [Nat.add_comm position] at damaged
            have behind := (damaged_append _ _ closed _).mp damaged
            exact Or.inr ⟨position, by omega, found, behind⟩
  | stop strict _ => exact absurd rfl strict

end Reading

namespace Decoding
variable {Value : Type} {policy : Policy} {start : Nat} {window : List UInt8}
  {pieces : List Piece} {stopped : Option Nat}

theorem note_pieces (pieces : List Piece) (notices : List Notice) :
    pieces.foldl note notices = (pieces.filterMap Piece.notice?).reverse ++ notices := by
  induction pieces generalizing notices with
  | nil => rfl
  | cons piece rest ih =>
      rw [List.foldl_cons, ih]
      cases piece with
      | kept offset point => rfl
      | replaced offset byte => simp [note, Piece.notice?]

def failure (policy : Policy) (stopped : Option Nat) : List Notice :=
  (stopped.bind (stopAt policy)).toList.map fun stop => .failed policy stop.offset stop.error

theorem conclude_notices (policy : Policy) (value : Value) (pieces : List Piece)
    (stopped : Option Nat) :
    (conclude policy value (pieces.foldl note []) (stopped.bind (stopAt policy))).notices =
      pieces.filterMap Piece.notice? ++ failure policy stopped := by
  unfold conclude failure
  cases stopped.bind (stopAt policy) <;> simp [note_pieces]

theorem decodeWindow_notices (run : Run policy start false window pieces stopped) :
    (decodeWindow policy start window).notices =
      pieces.filterMap Piece.notice? ++ failure policy stopped := by
  rw [decodeWindow_run run, conclude_notices]

theorem validateWindow_notices (run : Run policy start false window pieces stopped) :
    (validateWindow policy start window).notices =
      pieces.filterMap Piece.notice? ++ failure policy stopped := by
  unfold validateWindow
  rw [run_walk run note []]
  exact conclude_notices policy () pieces stopped

theorem validate_notices (buffer : List UInt8) (span : Span) (policy : Policy) :
    (validateTraced buffer span policy).notices = (decodeTraced buffer span policy).notices := by
  unfold validateTraced decodeTraced
  by_cases placed : span.start ≤ span.stop ∧ span.stop ≤ buffer.length
  · obtain ⟨pieces, stopped, run⟩ := run_exists policy span.start false (span.window buffer)
    rw [within_placed buffer span _ placed, within_placed buffer span _ placed,
      validateWindow_notices run, decodeWindow_notices run]
  · rw [within_misplaced buffer span _ placed, within_misplaced buffer span _ placed]

theorem decode_notices (buffer : List UInt8) (span : Span) (policy : Policy)
    (placed : span.start ≤ span.stop ∧ span.stop ≤ buffer.length)
    (run : Run policy span.start false (span.window buffer) pieces stopped) :
    (decodeTraced buffer span policy).notices =
      pieces.filterMap Piece.notice? ++ failure policy stopped := by
  rw [decodeTraced, within_placed buffer span _ placed, decodeWindow_notices run]

theorem told_replaced_iff (pieces : List Piece) (place : Nat) (byte : UInt8) :
    .replaced place byte ∈ pieces.filterMap Piece.notice? ↔ .replaced place byte ∈ pieces := by
  rw [List.mem_filterMap]
  constructor
  · rintro ⟨piece, member, told⟩
    cases piece with
    | kept offset point => cases told
    | replaced offset byte =>
        cases told
        exact member
  · intro member
    exact ⟨_, member, rfl⟩

theorem told_traced (pieces : List Piece) :
    ∀ notice ∈ pieces.filterMap Piece.notice?, (Log.Event.reading notice).level = .trace := by
  intro notice member
  obtain ⟨piece, _, told⟩ := List.mem_filterMap.mp member
  cases piece with
  | kept offset point => cases told
  | replaced offset byte =>
      cases told
      rfl

/-- A failure is reported under the policy of the reading, at the offset of its error. -/
theorem told_failed (buffer : List UInt8) (span : Span) (policy blamed : Policy) (offset : Nat)
    (error : DecodeError)
    (told : .failed blamed offset error ∈ (decodeTraced buffer span policy).notices) :
    blamed = policy ∧ offset = error.offset := by
  by_cases placed : span.start ≤ span.stop ∧ span.stop ≤ buffer.length
  · obtain ⟨pieces, stopped, run⟩ := run_exists policy span.start false (span.window buffer)
    rw [decode_notices buffer span policy placed run, List.mem_append] at told
    rcases told with told | told
    · -- Pieces are told about at another level.
      cases told_traced pieces _ told
    · obtain ⟨stop, stops, same⟩ := List.mem_map.mp told
      cases same
      exact ⟨rfl, (malformed_offset (stop_malformed (Option.mem_toList.mp stops))).symm⟩
  · rw [decodeTraced, within_misplaced buffer span _ placed] at told
    cases told

theorem told_offsets (pieces : List Piece) :
    ((pieces.filterMap Piece.notice?).map Notice.offset).Sublist (pieces.map Piece.offset) := by
  induction pieces with
  | nil => exact .slnil
  | cons piece rest ih =>
      cases piece with
      | kept offset point => exact ih.cons _
      | replaced offset byte => exact ih.cons_cons _

theorem window_get (buffer : List UInt8) (span : Span) (position : Nat)
    (placed : span.start ≤ span.stop ∧ span.stop ≤ buffer.length) (byte : UInt8) :
    (span.window buffer)[position]? = some byte ↔
      span.start + position < span.stop ∧ buffer[span.start + position]? = some byte := by
  unfold Span.window
  rw [List.getElem?_take, List.getElem?_drop]
  by_cases inside : position < span.stop - span.start
  · rw [if_pos inside, and_iff_right (by omega)]
  · rw [if_neg inside]
    constructor
    · intro impossible
      cases impossible
    · omega

theorem replace_told_iff (buffer : List UInt8) (span : Span)
    (placed : span.start ≤ span.stop ∧ span.stop ≤ buffer.length)
    (run : Run .replace span.start false (span.window buffer) pieces stopped) (place : Nat)
    (byte : UInt8) :
    .replaced place byte ∈ pieces.filterMap Piece.notice? ↔
      (span.start ≤ place ∧ place < span.stop) ∧ buffer[place]? = some byte ∧
        Damaged (span.window buffer) (place - span.start) := by
  rw [told_replaced_iff, run_replaced_iff run]
  constructor
  · rintro ⟨position, rfl, found, damaged⟩
    obtain ⟨inside, found⟩ := (window_get buffer span position placed byte).mp found
    rw [Nat.add_sub_cancel_left]
    exact ⟨⟨Nat.le_add_right _ _, inside⟩, found, damaged⟩
  · rintro ⟨⟨behind, inside⟩, found, damaged⟩
    obtain ⟨position, rfl⟩ := Nat.exists_eq_add_of_le behind
    rw [Nat.add_sub_cancel_left] at damaged
    exact ⟨position, rfl, (window_get buffer span position placed byte).mpr ⟨inside, found⟩,
      damaged⟩

theorem strict_told (buffer : List UInt8) (span : Span)
    (placed : span.start ≤ span.stop ∧ span.stop ≤ buffer.length) (strict : policy ≠ .replace)
    (error : DecodeError) (failed : decode buffer span policy = .error error) :
    (decodeTraced buffer span policy).notices = [.failed policy error.offset error] ∧
      DecodeError.malformed? policy error.offset = some error := by
  rw [decode_placed buffer span policy placed, decodeWindow_error_iff] at failed
  obtain ⟨pieces, position, run, malformed⟩ := failed
  rw [decode_notices buffer span policy placed run, run_strict_silent strict run, failure,
    Option.bind_some, stopAt, malformed, malformed_offset malformed]
  exact ⟨rfl, malformed⟩

theorem strict_silent (buffer : List UInt8) (span : Span)
    (placed : span.start ≤ span.stop ∧ span.stop ≤ buffer.length) (strict : policy ≠ .replace)
    (points : List CodePoint) (read : decode buffer span policy = .ok points) :
    (decodeTraced buffer span policy).notices = [] := by
  rw [decode_placed buffer span policy placed, decodeWindow_ok_iff] at read
  obtain ⟨pieces, run, _⟩ := read
  rw [decode_notices buffer span policy placed run, run_strict_silent strict run]
  rfl

/-- Decoding and validating report the same: nothing for a span that does not fit.
Replacing reports, at the finest level and in order, exactly the bytes inside the
span that no character holds, so that a replacement character which was read is not
among them; the reported bytes and the forms of the code points that were kept are
the bytes of the span, in the order of the text. Strict reading reports one failure,
with its policy and its error, and nothing if it succeeds. -/
theorem notices_account_for_bytes (buffer : List UInt8) (span : Span) (policy : Policy) :
    ∃ notices, (decodeTraced buffer span policy).notices = notices ∧
      (validateTraced buffer span policy).notices = notices ∧
      (¬(span.start ≤ span.stop ∧ span.stop ≤ buffer.length) → notices = []) ∧
      (span.start ≤ span.stop ∧ span.stop ≤ buffer.length → policy = .replace →
        (∀ notice ∈ notices, (Log.Event.reading notice).level = .trace) ∧
        (notices.map Notice.offset).Pairwise (· < ·) ∧
        (∀ offset byte, .replaced offset byte ∈ notices ↔
          (span.start ≤ offset ∧ offset < span.stop) ∧ buffer[offset]? = some byte ∧
            Damaged (span.window buffer) (offset - span.start)) ∧
        ∃ pieces : List Piece, decode buffer span policy = .ok (pieces.map Piece.point) ∧
          notices = pieces.filterMap Piece.notice? ∧
          pieces.flatMap Piece.source = span.window buffer) ∧
      (span.start ≤ span.stop ∧ span.stop ≤ buffer.length → policy ≠ .replace →
        (∀ points, decode buffer span policy = .ok points → notices = []) ∧
        ∀ error, decode buffer span policy = .error error →
          notices = [.failed policy error.offset error] ∧
          (Log.Event.reading (.failed policy error.offset error)).level = .debug ∧
          DecodeError.malformed? policy error.offset = some error) := by
  refine ⟨_, rfl, validate_notices buffer span policy, ?_, ?_, ?_⟩
  · intro misplaced
    rw [decodeTraced, within_misplaced buffer span _ misplaced]
  · rintro placed rfl
    obtain ⟨pieces, run⟩ := replace_run span.start false (span.window buffer)
    have told := decode_notices buffer span .replace placed run
    rw [failure, Option.bind_none, Option.toList_none, List.map_nil, List.append_nil] at told
    rw [told]
    refine ⟨told_traced pieces, (run_increasing run).sublist (told_offsets pieces),
      replace_told_iff buffer span placed run, pieces, ?_, rfl, run_sources run⟩
    rw [decode_placed buffer span .replace placed, decodeWindow_ok_iff]
    exact ⟨pieces, run, rfl⟩
  · intro placed strict
    refine ⟨strict_silent buffer span placed strict, ?_⟩
    intro error failed
    obtain ⟨told, malformed⟩ := strict_told buffer span placed strict error failed
    exact ⟨told, rfl, malformed⟩

-- A replacement character that was read stands before the three bytes of a lone lead.
theorem notices_account_for_bytes_read_replacement :
    (validateTraced [0x78, 0xEF, 0xBF, 0xBD, 0xED, 0xA0, 0x80] ⟨1, 7⟩ .replace).notices =
        [.replaced 4 0xED, .replaced 5 0xA0, .replaced 6 0x80] ∧
      (∀ byte, ¬(([0x78, 0xEF, 0xBF, 0xBD, 0xED, 0xA0, 0x80] : List UInt8)[1]? = some byte ∧
        Damaged [0xEF, 0xBF, 0xBD, 0xED, 0xA0, 0x80] 0)) ∧
      Damaged [0xEF, 0xBF, 0xBD, 0xED, 0xA0, 0x80] 4 ∧
      (validateTraced [0x61, 0xED, 0xA0, 0x80] ⟨0, 4⟩ .reject).notices =
        [.failed .reject 1 (.invalidUtf8 1)] ∧
      (validateTraced [0x61, 0xED, 0xA0, 0x80] ⟨0, 4⟩ .accept).notices = [] ∧
      (validateTraced [0x61, 0xED, 0xA0, 0x80] ⟨2, 5⟩ .replace).notices = [] := by
  have list : (decodeTraced [0x78, 0xEF, 0xBF, 0xBD, 0xED, 0xA0, 0x80] ⟨1, 7⟩ .replace).notices =
      [.replaced 4 0xED, .replaced 5 0xA0, .replaced 6 0x80] := by cbv
  have failed : decode [0x61, 0xED, 0xA0, 0x80] ⟨0, 4⟩ .reject = .error (.invalidUtf8 1) := by cbv
  have read : decode [0x61, 0xED, 0xA0, 0x80] ⟨0, 4⟩ .accept =
      .ok [.ofChar 'a', ⟨0xD800, by decide⟩] := by cbv
  obtain ⟨_, told, checked, _, replaced, _⟩ :=
    notices_account_for_bytes [0x78, 0xEF, 0xBF, 0xBD, 0xED, 0xA0, 0x80] ⟨1, 7⟩ .replace
  obtain ⟨_, _, blamed, _, _, rejecting⟩ :=
    notices_account_for_bytes [0x61, 0xED, 0xA0, 0x80] ⟨0, 4⟩ .reject
  obtain ⟨_, _, silent, _, _, accepting⟩ :=
    notices_account_for_bytes [0x61, 0xED, 0xA0, 0x80] ⟨0, 4⟩ .accept
  obtain ⟨_, _, refused, misplaced, _⟩ :=
    notices_account_for_bytes [0x61, 0xED, 0xA0, 0x80] ⟨2, 5⟩ .replace
  obtain rfl := list.symm.trans told
  obtain ⟨_, _, exactly, _⟩ := replaced (by decide) rfl
  refine ⟨checked, ?_, ((exactly 5 0xA0).mp (by simp)).2.2,
    blamed.trans ((rejecting (by decide) (by decide)).2 _ failed).1,
    silent.trans ((accepting (by decide) (by decide)).1 _ read),
    refused.trans (misplaced (by decide))⟩
  rintro byte ⟨found, damaged⟩
  have told := (exactly 1 byte).mpr ⟨by decide, found, damaged⟩
  simp at told

end Decoding
end Wobbly
