import Wobbly.Grammar.Bytes
import Wobbly.Proofs.StrictText

/-! Reading with replacement finds its way back after every damaged byte. The
bytes inside a sequence never start another one, so two sequences do not overlap
and the walk, which skips only what it has read, passes over none. What it leaves
behind is therefore the row of what the positions contribute, each on its own. -/
namespace Wobbly.Grammar
open CodePoint Reading Decoding

theorem scalarAt_iff (window : List UInt8) (position : Nat) (found : Scanned) :
    scalarAt? window position = some found ↔
      found.point.isSurrogate = false ∧ found.width = found.point.width ∧
        found.point.bytes <+: window.drop position := by
  unfold scalarAt? Scan.at?
  rw [Option.filter_eq_some_iff, Scan.front_iff, Bool.not_eq_true']
  exact and_comm

/-- The code points other than surrogates that are found are the characters
whose UTF-8 form stands there. -/
theorem scalarAt_spelled_iff (window : List UInt8) (position : Nat) (found : Scanned) :
    scalarAt? window position = some found ↔ ∃ char, Spelled window position char ∧
      found = ⟨.ofChar char, (String.utf8EncodeChar char).length⟩ := by
  rw [scalarAt_iff]
  constructor
  · rintro ⟨scalar, measured, row⟩
    have same := ofChar_lossyChar found.point scalar
    refine ⟨found.point.lossyChar, ?_, ?_⟩
    · rw [Spelled, ← bytes_ofChar, same]
      exact row
    · rw [← bytes_ofChar, same, bytes_length, ← measured]
  · rintro ⟨char, spelled, rfl⟩
    refine ⟨ofChar_scalar char, ?_, ?_⟩
    · rw [← bytes_length, bytes_ofChar]
    · rw [bytes_ofChar]
      exact spelled

theorem covered_iff (window : List UInt8) (position : Nat) :
    covered window position = true ↔ ∃ earlier found, scalarAt? window earlier = some found ∧
      earlier < position ∧ position < earlier + found.width := by
  simp only [covered, List.any_eq_true, List.mem_range]
  constructor
  · rintro ⟨earlier, before, reached⟩
    cases starts : scalarAt? window earlier with
    | none => simp [starts] at reached
    | some found =>
        simp only [starts, decide_eq_true_eq] at reached
        exact ⟨earlier, found, starts, before, reached⟩
  · rintro ⟨earlier, found, starts, before, reached⟩
    exact ⟨earlier, before, by simp [starts, reached]⟩

theorem covered_inside_iff (window : List UInt8) (position : Nat) :
    covered window position = true ↔ Inside window position := by
  rw [covered_iff]
  constructor
  · rintro ⟨earlier, found, starts, between⟩
    obtain ⟨char, spelled, rfl⟩ := (scalarAt_spelled_iff window earlier found).mp starts
    exact ⟨earlier, char, spelled, between⟩
  · rintro ⟨earlier, char, spelled, between⟩
    exact ⟨earlier, _, (scalarAt_spelled_iff window earlier _).mpr ⟨char, spelled, rfl⟩, between⟩

/-- No sequence starts inside another one. -/
theorem scalarAt_covered (window : List UInt8) (position : Nat)
    (hidden : covered window position = true) : scalarAt? window position = none := by
  obtain ⟨earlier, found, starts, before, reached⟩ := (covered_iff window position).mp hidden
  obtain ⟨_, measured, rest, row⟩ := (scalarAt_iff window earlier found).mp starts
  obtain ⟨distance, rfl⟩ := Nat.exists_eq_add_of_lt before
  obtain ⟨lead, tails, spelled, width, inner⟩ := bytes_cons found.point
  have short : distance < tails.length := by omega
  have continues := inner tails[distance] (List.getElem_mem short)
  unfold scalarAt? Scan.at?
  rw [Nat.add_assoc, ← List.drop_drop, ← row, spelled, List.cons_append, List.drop_succ_cons,
    List.drop_append_of_le_length (Nat.le_of_lt short), List.drop_eq_getElem_cons short,
    List.cons_append, Scan.front_continuation _ _ continues]
  rfl

theorem contribution_start (window : List UInt8) (position : Nat) (found : Scanned)
    (starts : scalarAt? window position = some found) :
    contribution window position = [found.point] := by
  rw [contribution, starts]

theorem contribution_covered (window : List UInt8) (position : Nat)
    (hidden : covered window position = true) : contribution window position = [] := by
  rw [contribution, scalarAt_covered window position hidden, hidden]
  rfl

theorem contribution_damaged (window : List UInt8) (position : Nat)
    (silent : scalarAt? window position = none) (exposed : covered window position = false) :
    contribution window position = [.replacement] := by
  rw [contribution, silent, exposed]
  rfl

theorem scalarAt_append (front rest : List UInt8) (position : Nat) :
    scalarAt? (front ++ rest) (front.length + position) = scalarAt? rest position := by
  unfold scalarAt? Scan.at?
  rw [List.drop_length_add_append]

/-- Nothing that starts in the first part reaches into the second. -/
def Closed (front rest : List UInt8) : Prop :=
  ∀ earlier found, earlier < front.length → scalarAt? (front ++ rest) earlier = some found →
    earlier + found.width ≤ front.length

theorem covered_append (front rest : List UInt8) (closed : Closed front rest) (position : Nat) :
    covered (front ++ rest) (front.length + position) = covered rest position := by
  rw [Bool.eq_iff_iff, covered_iff, covered_iff]
  constructor
  · rintro ⟨earlier, found, starts, before, reached⟩
    by_cases inFront : earlier < front.length
    · have ended := closed earlier found inFront starts
      omega
    · obtain ⟨shift, rfl⟩ := Nat.exists_eq_add_of_le (Nat.le_of_not_lt inFront)
      rw [scalarAt_append] at starts
      exact ⟨shift, found, starts, by omega, by omega⟩
  · rintro ⟨earlier, found, starts, before, reached⟩
    rw [← scalarAt_append front] at starts
    exact ⟨front.length + earlier, found, starts, by omega, by omega⟩

theorem contribution_append (front rest : List UInt8) (closed : Closed front rest)
    (position : Nat) :
    contribution (front ++ rest) (front.length + position) = contribution rest position := by
  unfold contribution
  rw [scalarAt_append, covered_append front rest closed]

theorem positional_append (front rest : List UInt8) (closed : Closed front rest) :
    positional (front ++ rest) =
      (List.range front.length).flatMap (contribution (front ++ rest)) ++ positional rest := by
  unfold positional
  rw [List.length_append, List.range_add, List.flatMap_append, List.flatMap_map]
  simp only [contribution_append front rest closed]

theorem scalarAt_bytes (point : CodePoint) (rest : List UInt8)
    (scalar : point.isSurrogate = false) :
    scalarAt? (point.bytes ++ rest) 0 = some ⟨point, point.width⟩ := by
  rw [scalarAt_iff]
  exact ⟨scalar, rfl, List.prefix_append _ _⟩

theorem covered_bytes (point : CodePoint) (rest : List UInt8)
    (scalar : point.isSurrogate = false) (position : Nat) (inside : position + 1 < point.width) :
    covered (point.bytes ++ rest) (position + 1) = true := by
  rw [covered_iff]
  exact ⟨0, _, scalarAt_bytes point rest scalar, Nat.succ_pos _, by simpa using inside⟩

theorem closed_bytes (point : CodePoint) (rest : List UInt8)
    (scalar : point.isSurrogate = false) : Closed point.bytes rest := by
  intro earlier found before starts
  rw [bytes_length] at before ⊢
  cases earlier with
  | zero =>
      rw [scalarAt_bytes point rest scalar] at starts
      cases starts
      exact Nat.le_of_eq (Nat.zero_add _)
  | succ earlier =>
      rw [scalarAt_covered _ _ (covered_bytes point rest scalar earlier before)] at starts
      cases starts

theorem closed_damaged (byte : UInt8) (rest : List UInt8)
    (silent : scalarAt? (byte :: rest) 0 = none) : Closed [byte] rest := by
  intro earlier found before starts
  obtain rfl := Nat.lt_one_iff.mp before
  rw [List.singleton_append, silent] at starts
  cases starts

theorem positional_kept (point : CodePoint) (rest : List UInt8)
    (scalar : point.isSurrogate = false) :
    positional (point.bytes ++ rest) = point :: positional rest := by
  obtain ⟨more, width⟩ := Nat.exists_eq_succ_of_ne_zero (Nat.ne_of_gt (width_pos point))
  rw [positional_append _ _ (closed_bytes point rest scalar), bytes_length, width,
    List.range_succ_eq_map, List.flatMap_cons, List.flatMap_map,
    contribution_start _ _ _ (scalarAt_bytes point rest scalar), List.flatMap_eq_nil_iff.mpr]
  · rfl
  · intro position member
    have short := List.mem_range.mp member
    exact contribution_covered _ _ (covered_bytes point rest scalar position (by omega))

theorem positional_damaged (byte : UInt8) (rest : List UInt8)
    (silent : scalarAt? (byte :: rest) 0 = none) :
    positional (byte :: rest) = .replacement :: positional rest := by
  have parts := positional_append [byte] rest (closed_damaged byte rest silent)
  rw [List.singleton_append] at parts
  rw [parts, List.length_singleton, List.range_one, List.flatMap_singleton,
    contribution_damaged _ 0 silent rfl]
  rfl

theorem positional_tails (tails rest : List UInt8)
    (inner : ∀ byte ∈ tails, isContinuation byte = true) :
    positional (tails ++ rest) = List.replicate tails.length .replacement ++ positional rest := by
  induction tails with
  | nil => rfl
  | cons byte tails ih =>
      have silent : scalarAt? (byte :: (tails ++ rest)) 0 = none := by
        unfold scalarAt? Scan.at?
        rw [List.drop_zero, Scan.front_continuation byte _ (inner byte List.mem_cons_self)]
        rfl
      rw [List.cons_append, positional_damaged byte _ silent,
        ih fun later member => inner later (List.mem_cons_of_mem byte member)]
      rfl

theorem unreadable_silent (afterLead : Bool) (window : List UInt8)
    (unreadable : Unreadable .replace afterLead window) : scalarAt? window 0 = none := by
  rw [Option.eq_none_iff_forall_ne_some]
  intro found starts
  obtain ⟨scalar, _, row⟩ := (scalarAt_iff window 0 found).mp starts
  have refused := unreadable found.point row
  simp [welcome, scalar] at refused

theorem run_positional {offset : Nat} {afterLead : Bool} {window : List UInt8}
    {pieces : List Piece} {stopped : Option Nat}
    (run : Run .replace offset afterLead window pieces stopped) :
    pieces.map Piece.point = positional window := by
  induction run with
  | done => rfl
  | keep point kept _ ih =>
      have scalar : point.isSurrogate = false := by simpa [welcome] using kept
      rw [List.map_cons, ih, positional_kept point _ scalar]
      rfl
  | replace _ unreadable _ ih =>
      rw [List.map_cons, ih, positional_damaged _ _ (unreadable_silent _ _ unreadable)]
      rfl
  | stop strict _ => exact absurd rfl strict

theorem decodeWindow_replace (start : Nat) (window : List UInt8) :
    (decodeWindow .replace start window).result = .ok (positional window) := by
  obtain ⟨pieces, run⟩ := replace_run start false window
  rw [decodeWindow_ok_iff]
  exact ⟨pieces, run, run_positional run⟩

/-- Replacing reads every window, and what a position adds to the text does not
depend on what was read before it: a character whose UTF-8 form stands there is
kept, the inside of such a form adds nothing, and any other byte is replaced. -/
theorem replace_reads_positions (window : List UInt8) :
    decodeAll window .replace = .ok ((List.range window.length).flatMap (contribution window)) ∧
      (∀ position char, Spelled window position char →
        contribution window position = [.ofChar char]) ∧
      (∀ position, Inside window position → contribution window position = []) ∧
      ∀ position, (∀ char, ¬Spelled window position char) → ¬Inside window position →
        contribution window position = [.replacement] := by
  refine ⟨?_, ?_, ?_, ?_⟩
  · rw [decodeAll_window]
    exact decodeWindow_replace 0 window
  · intro position char spelled
    exact contribution_start window position _
      ((scalarAt_spelled_iff window position _).mpr ⟨char, spelled, rfl⟩)
  · intro position inside
    exact contribution_covered window position ((covered_inside_iff window position).mpr inside)
  · intro position unspelled outside
    have silent : scalarAt? window position = none := by
      rw [Option.eq_none_iff_forall_ne_some]
      intro found starts
      obtain ⟨char, spelled, _⟩ := (scalarAt_spelled_iff window position found).mp starts
      exact unspelled char spelled
    rw [← covered_inside_iff] at outside
    exact contribution_damaged window position silent (Bool.eq_false_of_not_eq_true outside)

-- The lead byte of a long form stands right before a character of two bytes.
theorem replace_reads_positions_stray_lead :
    decodeAll [0xF0, 0xC3, 0xA9] .replace = .ok [.replacement, .ofChar 'é'] ∧
      ((∀ char, ¬Spelled [0xF0, 0xC3, 0xA9] 0 char) ∧ ¬Inside [0xF0, 0xC3, 0xA9] 0 ∧
        contribution [0xF0, 0xC3, 0xA9] 0 = [.replacement]) ∧
      (Spelled [0xF0, 0xC3, 0xA9] 1 'é' ∧ contribution [0xF0, 0xC3, 0xA9] 1 = [.ofChar 'é']) ∧
      Inside [0xF0, 0xC3, 0xA9] 2 ∧ contribution [0xF0, 0xC3, 0xA9] 2 = [] := by
  have unspelled : ∀ char, ¬Spelled [0xF0, 0xC3, 0xA9] 0 char := by
    intro char spelled
    have silent : scalarAt? [0xF0, 0xC3, 0xA9] 0 = none := by decide
    have starts := (scalarAt_spelled_iff [0xF0, 0xC3, 0xA9] 0 _).mpr ⟨char, spelled, rfl⟩
    rw [silent] at starts
    cases starts
  have outside : ¬Inside [0xF0, 0xC3, 0xA9] 0 := by
    rintro ⟨earlier, _, _, before, _⟩
    exact Nat.not_lt_zero earlier before
  have spelled : Spelled [0xF0, 0xC3, 0xA9] 1 'é' := by
    change String.utf8EncodeChar 'é' <+: [0xC3, 0xA9]
    decide
  have inside : Inside [0xF0, 0xC3, 0xA9] 2 := ⟨1, 'é', spelled, by decide, by decide⟩
  obtain ⟨row, kept, hidden, damaged⟩ := replace_reads_positions [0xF0, 0xC3, 0xA9]
  refine ⟨?_, ⟨unspelled, outside, damaged 0 unspelled outside⟩, ⟨spelled, kept 1 'é' spelled⟩,
    inside, hidden 2 inside⟩
  rw [row]
  rfl

end Wobbly.Grammar
