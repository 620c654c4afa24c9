import Wobbly.Proofs.LossySeams

/-! Readable bytes, cut short. A cut falls between two code points or inside the
form of one. Everything before that code point is read as it was, everything from
it on can be read by itself, and the bytes of it that are left spell nothing: the
first is a lead byte whose form does not end in time, and the others continue a
sequence that was never begun. -/
namespace Wobbly
open CodePoint Reading Sequence Decoding Grammar

namespace CodePoint

/-- The first bytes of a form hold no other form. -/
theorem form_unfinished (point other : CodePoint) (count : Nat) (unfinished : count < point.width) :
    ¬other.bytes <+: point.bytes.take count := by
  intro front
  have within : other.bytes <+: point.bytes ++ [] := by
    rw [List.append_nil]
    exact front.trans (List.take_prefix count point.bytes)
  obtain rfl := bytes_front_unique other point [] within
  have short := front.length_le
  rw [List.length_take, bytes_length] at short
  omega

end CodePoint

namespace Reading
variable {policy : Policy} {offset : Nat} {afterLead : Bool}

theorem admitted_append (before after : List CodePoint) :
    Admitted policy afterLead (before ++ after) ↔
      Admitted policy afterLead before ∧ Admitted policy (leadAfter afterLead before) after := by
  induction before generalizing afterLead with
  | nil => simp [Admitted, leadAfter]
  | cons point rest ih =>
      simp only [List.cons_append, Admitted, leadAfter, ih]
      exact and_assoc.symm

/-- What may stand somewhere may also stand at the start. -/
theorem admitted_start (points : List CodePoint) (admitted : Admitted policy afterLead points) :
    Admitted policy false points := by
  cases points with
  | nil => trivial
  | cons point rest =>
      obtain ⟨kept, later⟩ := admitted
      refine ⟨?_, later⟩
      cases policy with
      | accept =>
          rw [welcome_accept_iff]
          rintro ⟨flagged, _⟩
          cases flagged
      | reject => exact kept
      | replace => exact kept

/-- A cut after `length` bytes of the code points falls behind `before`, `count`
bytes into the first of those that follow. -/
structure CutsAt (points before after : List CodePoint) (length count : Nat) : Prop where
  parts : points = before ++ after
  place : length = (before.flatMap CodePoint.bytes).length + count
  inner : 0 < count → ∃ point rest, after = point :: rest ∧ count < point.width

theorem cut_exists (points : List CodePoint) (length : Nat)
    (short : length ≤ (points.flatMap CodePoint.bytes).length) :
    ∃ before after count, CutsAt points before after length count := by
  induction points generalizing length with
  | nil => exact ⟨[], [], 0, rfl, Nat.le_zero.mp short, nofun⟩
  | cons point rest ih =>
      rw [List.flatMap_cons, List.length_append, bytes_length] at short
      -- The cut falls into the first form, or it is a cut of what follows.
      by_cases inside : length < point.width
      · exact ⟨[], point :: rest, length, rfl, (Nat.zero_add length).symm,
          fun _ => ⟨point, rest, rfl, inside⟩⟩
      · obtain ⟨further, rfl⟩ := Nat.exists_eq_add_of_le (Nat.le_of_not_lt inside)
        obtain ⟨before, after, count, cut⟩ := ih further (Nat.le_of_add_le_add_left short)
        refine ⟨point :: before, after, count, congrArg (List.cons point) cut.parts, ?_, cut.inner⟩
        rw [List.flatMap_cons, List.length_append, bytes_length, cut.place, Nat.add_assoc]

variable {points before after : List CodePoint} {length count : Nat}

theorem cut_window (cut : CutsAt points before after length count) :
    (points.flatMap CodePoint.bytes).take length =
      before.flatMap CodePoint.bytes ++ (after.flatMap CodePoint.bytes).take count := by
  rw [cut.parts, cut.place, List.flatMap_append, List.take_length_add_append]

theorem cut_count_le (cut : CutsAt points before after length count) : count ≤ 3 := by
  by_cases begun : 0 < count
  · obtain ⟨point, _, _, unfinished⟩ := cut.inner begun
    have wide := width_le_four point
    omega
  · omega

theorem first_taken (point : CodePoint) (rest : List CodePoint) (unfinished : count < point.width) :
    ((point :: rest).flatMap CodePoint.bytes).take count = point.bytes.take count := by
  rw [List.flatMap_cons, List.take_append_of_le_length]
  rw [bytes_length]
  exact Nat.le_of_lt unfinished

theorem run_unfinished (point : CodePoint) (strict : policy ≠ .replace) (begun : 0 < count)
    (unfinished : count < point.width) :
    Run policy offset afterLead (point.bytes.take count) [] (some offset) := by
  have unreadable : Unreadable policy afterLead (point.bytes.take count) := by
    intro other front
    exact absurd front (form_unfinished point other count unfinished)
  cases left : point.bytes.take count with
  | nil =>
      have empty := congrArg List.length left
      rw [List.length_take, bytes_length, List.length_nil] at empty
      omega
  | cons byte rest =>
      rw [left] at unreadable
      exact Run.stop strict unreadable

theorem run_cut (offset : Nat) (strict : policy ≠ .replace)
    (admitted : Admitted policy afterLead points)
    (cut : CutsAt points before after length count) (begun : 0 < count) :
    ∃ pieces, Run policy offset afterLead ((points.flatMap CodePoint.bytes).take length) pieces
      (some (offset + (before.flatMap CodePoint.bytes).length)) := by
  rw [cut.parts, admitted_append] at admitted
  obtain ⟨point, rest, rfl, unfinished⟩ := cut.inner begun
  obtain ⟨front, run, _⟩ :=
    run_append before _ admitted.1 (run_unfinished point strict begun unfinished)
  rw [cut_window cut, first_taken point rest unfinished]
  exact ⟨_, run⟩

end Reading

namespace Grammar
variable {points before after : List CodePoint} {length count : Nat}

theorem positional_unfinished (point : CodePoint) (unfinished : count < point.width) :
    positional (point.bytes.take count) = List.replicate count .replacement := by
  have silent : scalarAt? (point.bytes.take count) 0 = none := by
    rw [Option.eq_none_iff_forall_ne_some]
    intro found starts
    obtain ⟨_, _, front⟩ := (scalarAt_iff _ 0 found).mp starts
    exact form_unfinished point found.point count unfinished front
  cases count with
  | zero => rfl
  | succ more =>
      obtain ⟨lead, tails, spelled, width, inner⟩ := bytes_cons point
      have continued : ∀ byte ∈ tails.take more, isContinuation byte = true :=
        fun byte member => inner byte (List.mem_of_mem_take member)
      have rest := positional_tails (tails.take more) [] continued
      rw [List.append_nil, List.length_take, Nat.min_eq_left (by omega)] at rest
      rw [spelled, List.take_succ_cons] at silent ⊢
      -- The lead byte is damaged by the cut, and what is left of its form starts nothing.
      rw [positional_damaged lead _ silent, rest]
      simp [positional, List.replicate_succ]

theorem positional_cut (scalar : hasSurrogate points = false)
    (cut : CutsAt points before after length count) :
    positional ((points.flatMap CodePoint.bytes).take length) =
      before ++ List.replicate count .replacement := by
  have front : hasSurrogate before = false := by
    rw [cut.parts, hasSurrogate, List.any_append, Bool.or_eq_false_iff] at scalar
    exact scalar.1
  rw [cut_window cut, positional_row before _ front]
  rcases Nat.eq_zero_or_pos count with rfl | begun
  · rfl
  · obtain ⟨point, rest, rfl, unfinished⟩ := cut.inner begun
    rw [first_taken point rest unfinished, positional_unfinished point unfinished]

end Grammar

namespace Decoding

theorem window_drop (buffer : List UInt8) (span : Span) (length : Nat) :
    Span.window ⟨span.start + length, span.stop⟩ buffer = (span.window buffer).drop length := by
  unfold Span.window
  rw [List.drop_take, List.drop_drop, Nat.sub_sub]

variable {buffer : List UInt8} {span : Span} {policy : Policy}
  {points before after : List CodePoint} {length count : Nat}

/-- Behind any code points that were read, reading may start anew. -/
theorem decode_parts (strict : policy ≠ .replace)
    (read : decode buffer span policy = .ok (before ++ after)) :
    decode buffer ⟨span.start, span.start + (before.flatMap CodePoint.bytes).length⟩ policy =
        .ok before ∧
      decode buffer ⟨span.start + (before.flatMap CodePoint.bytes).length, span.stop⟩ policy =
        .ok after := by
  rw [decode_strict_iff _ _ _ _ strict, List.flatMap_append, admitted_append] at read
  obtain ⟨placed, row, first, second⟩ := read
  have size := congrArg List.length row
  rw [window_length buffer span placed, List.length_append] at size
  have within : (before.flatMap CodePoint.bytes).length ≤ span.stop - span.start := by omega
  rw [decode_strict_iff _ _ _ _ strict, decode_strict_iff _ _ _ _ strict,
    window_take buffer span _ within, window_drop, row, List.take_left, List.drop_left]
  refine ⟨⟨⟨Nat.le_add_right _ _, ?_⟩, rfl, first⟩, ⟨?_, placed.2⟩, rfl,
    admitted_start after second⟩
  · change span.start + _ ≤ buffer.length
    omega
  · change span.start + _ ≤ span.stop
    omega

theorem decode_cut_fails (read : decode buffer span policy = .ok points)
    (cut : CutsAt points before after length count) (strict : policy ≠ .replace)
    (begun : 0 < count) (short : length ≤ span.stop - span.start) :
    ∃ error, decode buffer ⟨span.start, span.start + length⟩ policy = .error error ∧
      DecodeError.malformed? policy (span.start + (before.flatMap CodePoint.bytes).length) =
        some error ∧
      error.offset = span.start + (before.flatMap CodePoint.bytes).length := by
  obtain ⟨placed, row, admitted⟩ := (decode_strict_iff buffer span policy points strict).mp read
  obtain ⟨pieces, run⟩ := run_cut span.start strict admitted cut begun
  obtain ⟨error, malformed⟩ := malformed_strict strict
    (span.start + (before.flatMap CodePoint.bytes).length)
  refine ⟨error, ?_, malformed, malformed_offset malformed⟩
  have inside : span.start + length ≤ buffer.length := by omega
  rw [decode_placed _ _ _ ⟨Nat.le_add_right _ _, inside⟩, window_take buffer span length short, row,
    decodeWindow_error_iff]
  exact ⟨pieces, _, run, malformed⟩

theorem replace_cut (read : decode buffer span .reject = .ok points)
    (cut : CutsAt points before after length count) (short : length ≤ span.stop - span.start) :
    decode buffer ⟨span.start, span.start + length⟩ .replace =
      .ok (before ++ List.replicate count .replacement) := by
  obtain ⟨placed, row, scalar⟩ := (decode_reject_iff buffer span points).mp read
  have inside : span.start + length ≤ buffer.length := by omega
  rw [decode_replace _ _ ⟨Nat.le_add_right _ _, inside⟩, window_take buffer span length short, row,
    positional_cut scalar cut]

/-- A readable span that is cut short falls into two readable parts at the last
boundary of a code point up to the cut, at most three bytes before it. If the cut is
no boundary itself, reading up to the cut fails right there, at the lead byte of the
code point that was cut. Where rejecting could read the span, replacing reads the
first part and one replacement character for every byte behind it. -/
theorem cut_short_read_to_boundary (buffer : List UInt8) (span : Span) (cut : Nat)
    (policy : Policy) (points : List CodePoint) (strict : policy ≠ .replace)
    (inside : span.start ≤ cut ∧ cut ≤ span.stop) (read : decode buffer span policy = .ok points) :
    ∃ boundary before after, (span.start ≤ boundary ∧ boundary ≤ cut ∧ cut - boundary ≤ 3) ∧
      points = before ++ after ∧
      decode buffer ⟨span.start, boundary⟩ policy = .ok before ∧
      decode buffer ⟨boundary, span.stop⟩ policy = .ok after ∧
      (boundary = cut ∨ boundary < cut ∧
        (∃ error, decode buffer ⟨span.start, cut⟩ policy = .error error ∧
          DecodeError.malformed? policy boundary = some error ∧ error.offset = boundary) ∧
        ∃ point rest, after = point :: rest ∧ cut < boundary + point.width) ∧
      (policy = .reject → decode buffer ⟨span.start, cut⟩ .replace =
        .ok (before ++ List.replicate (cut - boundary) .replacement)) := by
  obtain ⟨placed, row, _⟩ := (decode_strict_iff buffer span policy points strict).mp read
  obtain ⟨length, rfl⟩ := Nat.exists_eq_add_of_le inside.1
  have short : length ≤ span.stop - span.start := by omega
  have covered : length ≤ (points.flatMap CodePoint.bytes).length := by
    rw [← row, window_length buffer span placed]
    exact short
  obtain ⟨before, after, count, falls⟩ := cut_exists points length covered
  have place := falls.place
  have near := cut_count_le falls
  have parts := falls.parts
  obtain ⟨first, second⟩ := decode_parts strict (parts ▸ read)
  refine ⟨span.start + (before.flatMap CodePoint.bytes).length, before, after,
    ⟨Nat.le_add_right _ _, by omega, by omega⟩, parts, first, second, ?_, ?_⟩
  · rcases Nat.eq_zero_or_pos count with rfl | begun
    · left
      rw [place, Nat.add_zero]
    · obtain ⟨point, rest, following, unfinished⟩ := falls.inner begun
      exact Or.inr ⟨by omega, decode_cut_fails read falls strict begun short, point, rest,
        following, by omega⟩
  · rintro rfl
    rw [place, Nat.add_sub_add_left, Nat.add_sub_cancel_left, ← place]
    exact replace_cut read falls short

-- Three of the four bytes of a supplementary character are left, behind a letter.
theorem cut_short_read_to_boundary_inside_form :
    decode [0x78, 0x61, 0xF0, 0x9F, 0x98, 0x80, 0x62] ⟨1, 7⟩ .reject =
        .ok [.ofChar 'a', .ofChar '😀', .ofChar 'b'] ∧
      decode [0x78, 0x61, 0xF0, 0x9F, 0x98, 0x80, 0x62] ⟨1, 2⟩ .reject = .ok [.ofChar 'a'] ∧
      decode [0x78, 0x61, 0xF0, 0x9F, 0x98, 0x80, 0x62] ⟨2, 7⟩ .reject =
        .ok [.ofChar '😀', .ofChar 'b'] ∧
      decode [0x78, 0x61, 0xF0, 0x9F, 0x98, 0x80, 0x62] ⟨1, 5⟩ .reject =
        .error (.invalidUtf8 2) ∧
      decode [0x78, 0x61, 0xF0, 0x9F, 0x98, 0x80, 0x62] ⟨1, 5⟩ .replace =
        .ok [.ofChar 'a', .replacement, .replacement, .replacement] := by
  have read : decode [0x78, 0x61, 0xF0, 0x9F, 0x98, 0x80, 0x62] ⟨1, 7⟩ .reject =
      .ok [.ofChar 'a', .ofChar '😀', .ofChar 'b'] := by cbv
  have failed : decode [0x78, 0x61, 0xF0, 0x9F, 0x98, 0x80, 0x62] ⟨1, 5⟩ .reject =
      .error (.invalidUtf8 2) := by cbv
  have front : decode [0x78, 0x61, 0xF0, 0x9F, 0x98, 0x80, 0x62] ⟨1, 2⟩ .reject =
      .ok [.ofChar 'a'] := by cbv
  obtain ⟨boundary, before, after, _, parts, first, second, stopped, replaced⟩ :=
    cut_short_read_to_boundary _ _ 5 _ _ (by decide) (by decide) read
  have place : boundary = 2 := by
    rcases stopped with rfl | ⟨_, ⟨error, again, _, blamed⟩, _⟩
    · rw [failed] at first
      cases first
    · rw [failed] at again
      cases again
      exact blamed.symm
  subst place
  obtain rfl := Except.ok.inj (front.symm.trans first)
  obtain rfl : [.ofChar '😀', .ofChar 'b'] = after := (List.cons.inj parts).2
  exact ⟨read, front, second, failed, replaced rfl⟩

end Decoding
end Wobbly
