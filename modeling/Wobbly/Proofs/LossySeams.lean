import Wobbly.Proofs.Policies

/-! Damaged bytes in two parts. What a position contributes is decided by the
sequence that reaches over it, so two parts are repaired on their own wherever no
sequence reaches across the seam. No sequence reaches across a byte that continues
nothing, whatever stands before it. Behind whole text the seam may be anywhere, since
the text is read off character by character and nothing of it is left. -/
namespace Wobbly.Grammar
open CodePoint Reading Sequence Decoding

/-- Before a closed seam the same sequences start, whatever follows it. -/
theorem scalarAt_front (front rest : List UInt8) (closed : Closed front rest) (position : Nat)
    (before : position < front.length) :
    scalarAt? (front ++ rest) position = scalarAt? front position := by
  have parts : (front ++ rest).drop position = front.drop position ++ rest :=
    List.drop_append_of_le_length (Nat.le_of_lt before)
  apply Option.ext
  intro found
  constructor
  · intro starts
    have ended := closed position found before starts
    rw [scalarAt_iff, parts] at starts
    obtain ⟨scalar, measured, row⟩ := starts
    have short : found.point.bytes.length ≤ (front.drop position).length := by
      rw [bytes_length, List.length_drop]
      omega
    rw [scalarAt_iff]
    exact ⟨scalar, measured,
      List.prefix_of_prefix_length_le row (List.prefix_append _ rest) short⟩
  · intro starts
    rw [scalarAt_iff] at starts
    obtain ⟨scalar, measured, row⟩ := starts
    rw [scalarAt_iff, parts]
    exact ⟨scalar, measured, row.trans (List.prefix_append _ rest)⟩

theorem covered_front (front rest : List UInt8) (closed : Closed front rest) (position : Nat)
    (before : position < front.length) :
    covered (front ++ rest) position = covered front position := by
  rw [Bool.eq_iff_iff, covered_iff, covered_iff]
  constructor
  · rintro ⟨earlier, found, starts, passed, reached⟩
    rw [scalarAt_front front rest closed earlier (Nat.lt_trans passed before)] at starts
    exact ⟨earlier, found, starts, passed, reached⟩
  · rintro ⟨earlier, found, starts, passed, reached⟩
    rw [← scalarAt_front front rest closed earlier (Nat.lt_trans passed before)] at starts
    exact ⟨earlier, found, starts, passed, reached⟩

theorem contribution_front (front rest : List UInt8) (closed : Closed front rest) (position : Nat)
    (before : position < front.length) :
    contribution (front ++ rest) position = contribution front position := by
  unfold contribution
  rw [scalarAt_front front rest closed position before,
    covered_front front rest closed position before]

theorem positional_seam (front rest : List UInt8) (closed : Closed front rest) :
    positional (front ++ rest) = positional front ++ positional rest := by
  have same : (List.range front.length).flatMap (contribution (front ++ rest)) =
      positional front := by
    apply List.flatMap_congr
    intro position member
    exact contribution_front front rest closed position (List.mem_range.mp member)
  rw [positional_append front rest closed, same]

/-- Only a continuation byte can stand behind the first byte of a sequence, so
none is open across any other byte. -/
theorem closed_apart (front rest : List UInt8)
    (apart : ∀ byte ∈ rest.head?, isContinuation byte = false) : Closed front rest := by
  intro earlier found before starts
  obtain ⟨_, measured, row⟩ := (scalarAt_iff _ earlier found).mp starts
  obtain ⟨lead, tails, spelled, width, inner⟩ := bytes_cons found.point
  rw [List.drop_append_of_le_length (Nat.le_of_lt before), List.drop_eq_getElem_cons before,
    spelled, List.cons_append, List.cons_prefix_cons] at row
  by_contra crossing
  have long : (front.drop (earlier + 1)).length < tails.length := by
    rw [List.length_drop]
    omega
  cases rest with
  | nil =>
      have fits := row.2.length_le
      rw [List.append_nil] at fits
      omega
  | cons byte more =>
      -- The sequence is longer than what is left of the front, so it holds the next byte.
      have next : front.drop (earlier + 1) ++ [byte] <+: front.drop (earlier + 1) ++ byte :: more :=
        (List.prefix_append_right_inj _).mpr ⟨more, rfl⟩
      have reached := List.prefix_of_prefix_length_le next row.2 (by simpa using long)
      have member : byte ∈ tails := reached.subset (List.mem_append_right _ List.mem_cons_self)
      have outside := apart byte rfl
      rw [inner byte member] at outside
      cases outside

/-- Characters are read off the front one by one, whatever stands behind them. -/
theorem positional_row (points : List CodePoint) (rest : List UInt8)
    (scalar : hasSurrogate points = false) :
    positional (points.flatMap CodePoint.bytes ++ rest) = points ++ positional rest := by
  induction points with
  | nil => rfl
  | cons point points ih =>
      obtain ⟨first, later⟩ := (hasSurrogate_cons point points).mp scalar
      rw [List.flatMap_cons, List.append_assoc, positional_kept point _ first, ih later,
        List.cons_append]

theorem decodeAll_replace (bytes : List UInt8) :
    decodeAll bytes .replace = .ok (positional bytes) := by
  rw [decodeAll_window]
  exact decodeWindow_replace 0 bytes

/-- Reading with replacement may be interrupted before any byte that continues
nothing, however damaged the bytes on both sides are, and before any byte at all
once the first part is whole text: the two parts give what the whole gives. -/
theorem replacing_splits_at_seam (front rest : List UInt8)
    (apart : (∀ byte ∈ rest.head?, isContinuation byte = false) ∨
      ∃ text, decodeAll front .reject = .ok text) :
    ∃ first second, decodeAll front .replace = .ok first ∧
      decodeAll rest .replace = .ok second ∧
      decodeAll (front ++ rest) .replace = .ok (first ++ second) := by
  have seam : positional (front ++ rest) = positional front ++ positional rest := by
    rcases apart with boundary | ⟨text, whole⟩
    · exact positional_seam front rest (closed_apart front rest boundary)
    · obtain ⟨rfl, scalar⟩ := (decodeAll_reject_iff front text).mp whole
      have alone : positional (text.flatMap CodePoint.bytes) = text := by
        simpa [positional] using positional_row text [] scalar
      rw [positional_row text rest scalar, alone]
  refine ⟨_, _, decodeAll_replace front, decodeAll_replace rest, ?_⟩
  rw [decodeAll_replace, seam]

-- A form cut off before the lead byte of another, and whole text before a stray continuation.
theorem replacing_splits_at_seam_cut_form :
    ((∀ byte ∈ [0xC3, 0xA9].head?, isContinuation byte = false) ∧
      decodeAll ([0x61, 0xE2, 0x82] ++ [0xC3, 0xA9]) .replace =
        .ok [.ofChar 'a', .replacement, .replacement, .ofChar 'é']) ∧
    decodeAll [0xC3, 0xA9] .reject = .ok [.ofChar 'é'] ∧
      decodeAll ([0xC3, 0xA9] ++ [0x80, 0x62]) .replace =
        .ok [.ofChar 'é', .replacement, .ofChar 'b'] := by
  have boundary : ∀ byte ∈ [0xC3, 0xA9].head?, isContinuation byte = false := by
    rintro _ ⟨⟩
    decide
  have whole : decodeAll [0xC3, 0xA9] .reject = .ok [.ofChar 'é'] := by cbv
  have damaged : decodeAll [0x61, 0xE2, 0x82] .replace =
      .ok [.ofChar 'a', .replacement, .replacement] := by cbv
  have text : decodeAll [0xC3, 0xA9] .replace = .ok [.ofChar 'é'] := by cbv
  have stray : decodeAll [0x80, 0x62] .replace = .ok [.replacement, .ofChar 'b'] := by cbv
  obtain ⟨_, _, sameDamaged, sameText, joined⟩ :=
    replacing_splits_at_seam [0x61, 0xE2, 0x82] [0xC3, 0xA9] (Or.inl boundary)
  obtain ⟨_, _, again, sameStray, behind⟩ :=
    replacing_splits_at_seam [0xC3, 0xA9] [0x80, 0x62] (Or.inr ⟨_, whole⟩)
  obtain rfl := Except.ok.inj (damaged.symm.trans sameDamaged)
  obtain rfl := Except.ok.inj (text.symm.trans sameText)
  obtain rfl := Except.ok.inj (text.symm.trans again)
  obtain rfl := Except.ok.inj (stray.symm.trans sameStray)
  exact ⟨⟨boundary, joined⟩, whole, behind⟩

end Wobbly.Grammar
