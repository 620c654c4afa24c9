import Wobbly.Proofs.Notices

/-! A walk, one turn at a time. Between two turns a walk is described by a cursor:
how far it has come, what it remembers and what it has left behind. A turn either
ends the walk or moves the cursor over the bytes of one piece, which stand in front
of it inside the window. So the cursor moves by one to four bytes, never passes the
end, and stops short of it only where strict reading fails. Positions stay far below
the limit of a 64-bit word. -/
namespace Wobbly
open CodePoint Decoding Grammar

namespace Reading
variable {State : Type} {policy : Policy} {base : Nat} {window : List UInt8}

/-- A walk between two turns, `position` bytes into its window. -/
structure Cursor where
  position : Nat
  afterLead : Bool
  pieces : List Piece
  deriving DecidableEq

namespace Cursor

def initial : Cursor := ⟨0, false, []⟩

def behind (cursor : Cursor) (piece : Piece) : Cursor :=
  ⟨cursor.position + piece.source.length, piece.point.isLead, cursor.pieces ++ [piece]⟩

def resume (policy : Policy) (visit : State → Piece → State) (state : State) (base : Nat)
    (window : List UInt8) (cursor : Cursor) : State × Option Stop :=
  walk policy visit (cursor.pieces.foldl visit state) (base + cursor.position) cursor.afterLead
    (window.drop cursor.position)

end Cursor

def advance (policy : Policy) (base : Nat) (window : List UInt8) (cursor : Cursor) :
    Option Cursor :=
  match window.drop cursor.position with
  | [] => none
  | byte :: rest =>
    match step policy (base + cursor.position) cursor.afterLead (byte :: rest) with
    | .keep found =>
      some ⟨cursor.position + found.width, found.point.isLead,
        cursor.pieces ++ [.kept (base + cursor.position) found.point]⟩
    | .replace =>
      some ⟨cursor.position + 1, false,
        cursor.pieces ++ [.replaced (base + cursor.position) byte]⟩
    | .stop _ => none

inductive Reached (policy : Policy) (base : Nat) (window : List UInt8) : Cursor → Prop where
  | initial : Reached policy base window .initial
  | turned {cursor next : Cursor} (before : Reached policy base window cursor)
      (turn : advance policy base window cursor = some next) : Reached policy base window next

theorem step_keep {offset : Nat} {afterLead : Bool} {found : Scanned}
    (kept : step policy offset afterLead window = .keep found) :
    Scan.front? window = some found ∧ welcome policy afterLead found.point = true := by
  rcases step_cases policy offset afterLead window with ⟨other, same, read, welcomed⟩ | refused
  · rw [same] at kept
    cases kept
    exact ⟨read, welcomed⟩
  · rw [refused] at kept
    cases policy <;> cases kept

theorem step_stop {offset : Nat} {afterLead : Bool} {stop : Stop}
    (halted : step policy offset afterLead window = .stop stop) : stop.offset = offset := by
  rcases step_cases policy offset afterLead window with ⟨_, same, _⟩ | refused
  · rw [same] at halted
    cases halted
  · rw [refused] at halted
    cases policy <;> cases halted <;> rfl

variable {cursor next last : Cursor}

/-- A turn puts the cursor behind a piece whose bytes stand right in front of it, and
from there the walk goes on. -/
theorem advance_cases (turn : advance policy base window cursor = some next) :
    ∃ piece rest, window.drop cursor.position = piece.source ++ rest ∧
      next = cursor.behind piece ∧
      ∀ (State : Type) (visit : State → Piece → State) (state : State),
        walk policy visit state (base + cursor.position) cursor.afterLead (piece.source ++ rest) =
          walk policy visit (visit state piece) (base + next.position) next.afterLead rest := by
  unfold advance at turn
  split at turn
  · cases turn
  next byte rest left =>
  rw [left]
  split at turn
  · next found kept =>
    cases turn
    obtain ⟨read, welcomed⟩ := step_keep kept
    obtain ⟨measured, row⟩ := Scan.front_exact _ found read
    refine ⟨.kept (base + cursor.position) found.point, _, row, ?_, ?_⟩
    · rw [Cursor.behind, Piece.source, bytes_length, measured]
      rfl
    · intro State visit state
      rw [← Nat.add_assoc, measured]
      exact walk_kept visit state found.point _ welcomed
  · next replaced =>
    cases turn
    refine ⟨.replaced (base + cursor.position) byte, rest, rfl, rfl, ?_⟩
    intro State visit state
    change walk policy visit state _ _ (byte :: rest) = _
    rw [walk, replaced, ← Nat.add_assoc]
  · cases turn

theorem resume_turn (visit : State → Piece → State) (state : State)
    (turn : advance policy base window cursor = some next) :
    cursor.resume policy visit state base window = next.resume policy visit state base window := by
  obtain ⟨piece, rest, left, rfl, walked⟩ := advance_cases turn
  have behind : window.drop (cursor.behind piece).position = rest := by
    change window.drop (cursor.position + piece.source.length) = rest
    rw [← List.drop_drop, left, List.drop_left]
  have visited : (cursor.behind piece).pieces.foldl visit state =
      visit (cursor.pieces.foldl visit state) piece := by simp [Cursor.behind]
  rw [Cursor.resume, left, walked, Cursor.resume, behind, visited]

theorem resume_ended (visit : State → Piece → State) (state : State)
    (ended : advance policy base window last = none) :
    ∃ stopped : Option Stop,
      last.resume policy visit state base window = (last.pieces.foldl visit state, stopped) ∧
      stopped.map Stop.offset =
        if last.position < window.length then some (base + last.position) else none := by
  unfold advance at ended
  unfold Cursor.resume
  split at ended
  · next left =>
    rw [if_neg (Nat.not_lt_of_le (List.drop_eq_nil_iff.mp left)), left, walk]
    exact ⟨none, rfl, rfl⟩
  next byte rest left =>
  split at ended
  · cases ended
  · cases ended
  next stop halted =>
  have inside : last.position < window.length := by
    by_contra outside
    rw [List.drop_eq_nil_of_le (Nat.le_of_not_lt outside)] at left
    cases left
  rw [if_pos inside, left, walk, halted]
  exact ⟨some stop, rfl, congrArg some (step_stop halted)⟩

/-- A walk is the same as going on from any cursor it reaches. -/
theorem reached_resume (visit : State → Piece → State) (state : State)
    (reached : Reached policy base window cursor) :
    walk policy visit state base false window = cursor.resume policy visit state base window := by
  induction reached with
  | initial => rfl
  | turned _ turn ih => rw [ih, resume_turn visit state turn]

theorem behind_within (cursor : Cursor) (piece : Piece) (rest : List UInt8)
    (left : window.drop cursor.position = piece.source ++ rest) :
    cursor.position < window.length ∧ (cursor.behind piece).position ≤ window.length := by
  have size := congrArg List.length left
  have filled := piece.source_length
  rw [List.length_drop, List.length_append] at size
  change _ ∧ cursor.position + piece.source.length ≤ window.length
  omega

structure Sound (window : List UInt8) (cursor : Cursor) : Prop where
  within : cursor.position ≤ window.length
  flagged : cursor.afterLead = cursor.pieces.getLast?.any fun piece => piece.point.isLead

theorem sound_turn (turn : advance policy base window cursor = some next) :
    Sound window next := by
  obtain ⟨piece, rest, left, rfl, _⟩ := advance_cases turn
  exact ⟨(behind_within cursor piece rest left).2, by simp [Cursor.behind]⟩

theorem reached_sound (reached : Reached policy base window cursor) : Sound window cursor := by
  cases reached with
  | initial => exact ⟨Nat.zero_le _, rfl⟩
  | turned _ turn => exact sound_turn turn

/-- Every turn leaves fewer bytes, so a walk comes to an end from wherever it is. -/
theorem reached_end (reached : Reached policy base window cursor) :
    ∃ last, Reached policy base window last ∧ advance policy base window last = none := by
  induction size : window.length - cursor.position using Nat.strongRecOn generalizing cursor with
  | ind size ih =>
      subst size
      cases turn : advance policy base window cursor with
      | none => exact ⟨cursor, reached, turn⟩
      | some next =>
          have later := reached.turned turn
          obtain ⟨piece, rest, left, rfl, _⟩ := advance_cases turn
          have inside := (behind_within cursor piece rest left).1
          have filled := piece.source_length
          have fewer : window.length - (cursor.behind piece).position <
              window.length - cursor.position := by
            change window.length - (cursor.position + piece.source.length) < _
            omega
          exact ih _ fewer later rfl

theorem reached_run (reached : Reached policy base window last)
    (ended : advance policy base window last = none) :
    Run policy base false window last.pieces
      (if last.position < window.length then some (base + last.position) else none) := by
  obtain ⟨pieces, stopped, run⟩ := run_exists policy base false window
  -- The visitor that collects pieces shows that the run and the turns left the same ones.
  obtain ⟨stop, resumed, place⟩ := resume_ended (fun seen piece => piece :: seen) [] ended
  have same := (run_walk run (fun seen piece => piece :: seen) []).symm.trans
    ((reached_resume _ _ reached).trans resumed)
  simp only [List.foldl_flip_cons_eq_append, Prod.mk.injEq] at same
  have samePieces : pieces = last.pieces := by simpa using same.1
  rwa [← samePieces, ← place, ← same.2, run_stop_offset run]

theorem sources_length (pieces : List Piece) :
    pieces.length ≤ (pieces.flatMap Piece.source).length ∧
      (pieces.flatMap Piece.source).length ≤ 4 * pieces.length := by
  induction pieces with
  | nil => exact ⟨Nat.le_refl 0, Nat.le_refl 0⟩
  | cons piece rest ih =>
      have one := piece.source_length
      rw [List.flatMap_cons, List.length_append, List.length_cons]
      omega

/-- At the start of a turn there is a byte to look at, and neither the end of any form
that it may announce nor its offset in the buffer is beyond the limit of a word. -/
structure SafeStart (buffer : List UInt8) (span : Span) (cursor : Cursor) : Prop where
  byte : ∃ byte, (span.window buffer)[cursor.position]? = some byte
  announced : ∀ form : Form, cursor.position + form.width ≤ Text.Numeral.wordLimit
  offset : span.start + cursor.position ≤ Text.Numeral.wordLimit

/-- A turn moves the cursor over one to four bytes inside the window, and if it keeps
a code point, that is the payload of these bytes, within the range of code points. -/
structure SafeTurn (window : List UInt8) (cursor next : Cursor) : Prop where
  entered : cursor.position < window.length
  grows : cursor.position + 1 ≤ next.position
  short : next.position ≤ cursor.position + 4
  within : next.position ≤ window.length
  hands : ∃ piece, next.pieces = cursor.pieces ++ [piece] ∧
    ∀ offset point, piece = .kept offset point →
      payload (Span.window ⟨cursor.position, next.position⟩ window) = point.value ∧
        payload (Span.window ⟨cursor.position, next.position⟩ window) ≤ 0x10FFFF

theorem advance_safe (turn : advance policy base window cursor = some next) :
    SafeTurn window cursor next := by
  obtain ⟨piece, rest, left, rfl, _⟩ := advance_cases turn
  have size := piece.source_length
  have within := behind_within cursor piece rest left
  have slice : Span.window ⟨cursor.position, (cursor.behind piece).position⟩ window =
      piece.source := by
    change (window.drop cursor.position).take
      (cursor.position + piece.source.length - cursor.position) = piece.source
    rw [Nat.add_sub_cancel_left, left, List.take_left]
  refine ⟨within.1, Nat.add_le_add_left size.1 _, Nat.add_le_add_left size.2 _, within.2, piece,
    rfl, ?_⟩
  rintro offset point rfl
  rw [slice, Piece.source, payload_bytes]
  exact ⟨rfl, point.bounded⟩

theorem safe_start (buffer : List UInt8) (span : Span) (cursor : Cursor)
    (small : buffer.length < 0x8000000000000000)
    (placed : span.start ≤ span.stop ∧ span.stop ≤ buffer.length)
    (inside : cursor.position < (span.window buffer).length) : SafeStart buffer span cursor where
  byte := ⟨_, List.getElem?_eq_getElem inside⟩
  announced := by
    intro form
    have wide : form.width ≤ 4 := by cases form <;> decide
    rw [window_length buffer span placed] at inside
    change _ ≤ 0xFFFFFFFFFFFFFFFF
    omega
  offset := by
    rw [window_length buffer span placed] at inside
    change _ ≤ 0xFFFFFFFFFFFFFFFF
    omega

end Reading

namespace Decoding
open Reading

theorem decode_last (buffer : List UInt8) (span : Span) (policy : Policy) (last : Cursor)
    (placed : span.start ≤ span.stop ∧ span.stop ≤ buffer.length)
    (reached : Reached policy span.start (span.window buffer) last)
    (ended : advance policy span.start (span.window buffer) last = none)
    (points : List CodePoint) (read : decode buffer span policy = .ok points) :
    last.position = (span.window buffer).length ∧ points = last.pieces.map Piece.point := by
  rw [decode_placed buffer span policy placed, decodeWindow_ok_iff] at read
  obtain ⟨pieces, run, rfl⟩ := read
  obtain ⟨rfl, whole⟩ := run_unique run (reached_run reached ended)
  have within := (reached_sound reached).within
  refine ⟨?_, rfl⟩
  by_contra short
  rw [if_pos (by omega)] at whole
  cases whole

theorem decode_length (buffer : List UInt8) (span : Span) (policy : Policy)
    (points : List CodePoint) (read : decode buffer span policy = .ok points) :
    points.length ≤ span.stop - span.start ∧ span.stop - span.start ≤ 4 * points.length := by
  obtain ⟨placed, done⟩ := (decode_ok_iff buffer span policy points).mp read
  obtain ⟨pieces, run, rfl⟩ := (decodeWindow_ok_iff _ _ _ points).mp done
  rw [← window_length buffer span placed, ← run_sources run, List.length_map]
  exact sources_length pieces

/-- A walk over a span that fits is safe in every turn, for all buffers that fit into
half of the address space. No index or offset leaves its range, the cursor moves by one
to four bytes and never passes the end, every code point that is handed on is in range,
and the flag says whether the last one is a lead. The turns are those of decoding and
validating, and when decoding succeeds they have used up the window. -/
theorem turns_safe_to_end (buffer : List UInt8) (span : Span) (policy : Policy)
    (small : buffer.length < 0x8000000000000000)
    (placed : span.start ≤ span.stop ∧ span.stop ≤ buffer.length) :
    (∀ cursor, Reached policy span.start (span.window buffer) cursor →
      cursor.position ≤ (span.window buffer).length ∧
      (cursor.position < (span.window buffer).length → SafeStart buffer span cursor) ∧
      (∀ next, advance policy span.start (span.window buffer) cursor = some next →
        SafeTurn (span.window buffer) cursor next) ∧
      (cursor.afterLead = cursor.pieces.getLast?.any fun piece => piece.point.isLead) ∧
      ∀ (State : Type) (visit : State → Piece → State) (state : State),
        walk policy visit state span.start false (span.window buffer) =
          cursor.resume policy visit state span.start (span.window buffer)) ∧
    ∃ last, Reached policy span.start (span.window buffer) last ∧
      advance policy span.start (span.window buffer) last = none ∧
      (∃ stopped : Option Stop,
        (stopped.map Stop.offset =
          if last.position < (span.window buffer).length then some (span.start + last.position)
          else none) ∧
        (∀ stop ∈ stopped, DecodeError.malformed? policy stop.offset = some stop.error) ∧
        ∀ (State : Type) (visit : State → Piece → State) (state : State),
          walk policy visit state span.start false (span.window buffer) =
            (last.pieces.foldl visit state, stopped)) ∧
      ∀ points, decode buffer span policy = .ok points →
        (last.position = (span.window buffer).length ∧ points = last.pieces.map Piece.point) ∧
        points.length ≤ span.stop - span.start ∧ span.stop - span.start ≤ 4 * points.length := by
  constructor
  · intro cursor reached
    have sound := reached_sound reached
    exact ⟨sound.within, safe_start buffer span cursor small placed, fun _ => advance_safe,
      sound.flagged, fun _ visit state => reached_resume visit state reached⟩
  · obtain ⟨last, reached, ended⟩ := reached_end
      (.initial : Reached policy span.start (span.window buffer) _)
    have run := reached_run reached ended
    refine ⟨last, reached, ended, ⟨_, run_stop_offset run, fun _ => stop_malformed,
      fun _ => run_walk run⟩, ?_⟩
    intro points read
    exact ⟨decode_last buffer span policy last placed reached ended points read,
      decode_length buffer span policy points read⟩

-- A lone lead and a letter behind it, in two turns.
theorem turns_safe_to_end_lone_lead :
    Reached .accept 1 [0xED, 0xA0, 0x80, 0x61] ⟨3, true, [.kept 1 ⟨0xD800, by decide⟩]⟩ ∧
      SafeStart [0x78, 0xED, 0xA0, 0x80, 0x61] ⟨1, 5⟩
        ⟨3, true, [.kept 1 ⟨0xD800, by decide⟩]⟩ ∧
      SafeTurn [0xED, 0xA0, 0x80, 0x61] .initial ⟨3, true, [.kept 1 ⟨0xD800, by decide⟩]⟩ ∧
      decode [0x78, 0xED, 0xA0, 0x80, 0x61] ⟨1, 5⟩ .accept =
        .ok [⟨0xD800, by decide⟩, .ofChar 'a'] ∧
      [⟨0xD800, by decide⟩, CodePoint.ofChar 'a'].length ≤ 5 - 1 ∧
      5 - 1 ≤ 4 * [⟨0xD800, by decide⟩, CodePoint.ofChar 'a'].length := by
  have turn : advance .accept 1 [0xED, 0xA0, 0x80, 0x61] .initial =
      some ⟨3, true, [.kept 1 ⟨0xD800, by decide⟩]⟩ := by decide
  have read : decode [0x78, 0xED, 0xA0, 0x80, 0x61] ⟨1, 5⟩ .accept =
      .ok [⟨0xD800, by decide⟩, .ofChar 'a'] := by cbv
  obtain ⟨turns, _, _, _, _, whole⟩ :=
    turns_safe_to_end [0x78, 0xED, 0xA0, 0x80, 0x61] ⟨1, 5⟩ .accept (by decide) (by decide)
  have begun : Reached .accept 1 [0xED, 0xA0, 0x80, 0x61] .initial := .initial
  have reached := begun.turned turn
  exact ⟨reached, (turns _ reached).2.1 (by decide), (turns _ begun).2.2.1 _ turn, read,
    (whole _ read).2⟩

end Decoding
end Wobbly
