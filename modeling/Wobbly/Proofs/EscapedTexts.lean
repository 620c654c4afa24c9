import Wobbly.Proofs.HexTexts

/-! Escaped text is read by its grammar. The opener cannot overlap itself, so a
literal stretch is over exactly where the next opener starts, and the digits of an
escape hold no brace, so it is over at the next closing one. Every text is therefore
a whole escaped text, or such a text with an opener behind it that opens nothing,
and reading takes it apart in just this way. -/
namespace Wobbly
open Text Grammar

namespace Text.Escape

theorem byteLength_append (front rest : List Char) :
    byteLength (front ++ rest) = byteLength front + byteLength rest := by
  induction front with
  | nil => simp [byteLength]
  | cons char front ih =>
      simp only [byteLength, List.cons_append, List.foldr_cons] at ih ⊢
      rw [ih, Nat.add_assoc]

theorem byteLength_utf8 (chars : List Char) :
    byteLength chars = (String.ofList chars).utf8ByteSize := by
  rw [String.utf8ByteSize_ofList]
  induction chars with
  | nil => rfl
  | cons char rest ih =>
      rw [String.utf8Len_cons, ← ih, Nat.add_comm]
      rfl

theorem untilCloser_none (text : List Char) (endless : closer ∉ text) :
    untilCloser? text = none := by
  induction text with
  | nil => rfl
  | cons char rest ih =>
      rw [List.mem_cons, not_or] at endless
      rw [untilCloser?, if_neg (Ne.symm endless.1), ih endless.2]
      rfl

theorem untilCloser_some (digits after : List Char) (first : closer ∉ digits) :
    untilCloser? (digits ++ closer :: after) = some (digits, after) := by
  induction digits with
  | nil => rfl
  | cons char rest ih =>
      rw [List.mem_cons, not_or] at first
      rw [List.cons_append, untilCloser?, if_neg (Ne.symm first.1), ih first.2]
      rfl

def EndOrOpener (rest : List Char) : Prop := rest = [] ∨ opener <+: rest

/-- An opener in front does not reach over from one stretch into the next opener. -/
theorem opener_within (stretch rest : List Char) (stops : EndOrOpener rest)
    (nonempty : stretch ≠ []) (opened : opener <+: stretch ++ rest) : opener <+: stretch := by
  rcases stops with rfl | ⟨behind, rfl⟩
  · rwa [List.append_nil] at opened
  · -- A stretch of one or two characters would put a backslash inside the opener.
    rcases stretch with _ | ⟨first, _ | ⟨second, _ | ⟨third, more⟩⟩⟩
    · exact absurd rfl nonempty
    · simp [opener] at opened
    · simp [opener] at opened
    · simpa [opener] using opened

theorem plain_reads (offset : Nat) (char : Char) (rest : List Char)
    (unopened : ¬opener <+: char :: rest) : readFrom offset (char :: rest) =
      (readFrom (offset + char.utf8Size) rest).map (.ofChar char :: ·) := by
  rw [readFrom]
  rintro behind rfl rfl
  exact unopened ⟨behind, rfl⟩

theorem unclosed_reads (offset : Nat) (rest : List Char) (endless : closer ∉ rest) :
    readFrom offset (opener ++ rest) = .error (.unterminated offset) := by
  have cut := untilCloser_none rest endless
  rw [opener, List.cons_append, List.cons_append, List.cons_append, List.nil_append, readFrom]
  split
  · rfl
  · next found =>
    rw [cut] at found
    cases found

theorem closed_reads (offset : Nat) (digits after : List Char) (first : closer ∉ digits) :
    readFrom offset (opener ++ (digits ++ closer :: after)) =
      (spelled digits).bind fun point =>
        (readFrom (offset + 3 + byteLength digits + 1) after).map (point :: ·) := by
  have cut := untilCloser_some digits after first
  rw [opener, List.cons_append, List.cons_append, List.cons_append, List.nil_append, readFrom]
  split
  · next found =>
    rw [cut] at found
    cases found
  · next found =>
    rw [cut] at found
    cases found
    cases spelled digits <;> rfl

theorem prepended (front more : List CodePoint) (result : Except EscapeError (List CodePoint)) :
    (result.map (more ++ ·)).map (front ++ ·) = result.map ((front ++ more) ++ ·) := by
  cases result <;> simp [Except.map]

/-- Up to the next opener every character stands for itself. -/
theorem literal_reads (offset : Nat) (literal : Literal) (rest : List Char)
    (stops : EndOrOpener rest) : readFrom offset (literal.chars ++ rest) =
      (readFrom (offset + byteLength literal.chars) rest).map (literal.points ++ ·) := by
  obtain ⟨chars, unopened⟩ := literal
  change readFrom offset (chars ++ rest) =
    (readFrom (offset + byteLength chars) rest).map (chars.map .ofChar ++ ·)
  induction chars generalizing offset with
  | nil =>
      change readFrom offset rest = (readFrom offset rest).map ([] ++ ·)
      cases readFrom offset rest <;> rfl
  | cons char chars ih =>
      rw [List.infix_cons_iff, not_or] at unopened
      have alone : ¬opener <+: char :: (chars ++ rest) := fun opened =>
        unopened.1 (opener_within (char :: chars) rest stops (List.cons_ne_nil _ _) opened)
      have size : byteLength (char :: chars) = char.utf8Size + byteLength chars := rfl
      rw [List.cons_append, plain_reads offset char _ alone, ih _ unopened.2, size,
        ← Nat.add_assoc]
      exact prepended [.ofChar char] _ _

theorem spelled_hex (digits : List Char) (nonempty : digits ≠ [])
    (hex : ∀ digit ∈ digits, HexDigit digit) : spelled digits =
      if 0x100000000 ≤ number digits then .error (.invalidDigits (.ofList digits))
      else (CodePoint.check (number digits)).mapError .outOfRange := by
  rw [spelled, if_neg (by simpa using nonempty), Hex.value_number digits hex]
  dsimp only
  cases CodePoint.check (number digits) <;> rfl

theorem spelled_other (digits : List Char) (other : ∃ digit ∈ digits, ¬HexDigit digit) :
    spelled digits = .error (.invalidDigits (.ofList digits)) := by
  have nonempty : digits ≠ [] := by
    obtain ⟨digit, member, _⟩ := other
    exact List.ne_nil_of_mem member
  rw [spelled, if_neg (by simpa using nonempty), Hex.value?, Hex.valueFrom_other 0 digits other]

theorem spelled_spelling (spelling : Spelling) :
    spelled spelling.digits = .ok spelling.point := by
  have bounded := spelling.bounded
  rw [spelled_hex _ spelling.nonempty spelling.hex, if_neg (by omega), CodePoint.check,
    CodePoint.ofNat?, dif_pos bounded]
  rfl

theorem spelled_faulty (digits : List Char) (error : EscapeError) (faulty : Faulty digits error) :
    spelled digits = .error error := by
  cases faulty with
  | invalid bad =>
      by_cases other : ∃ digit ∈ digits, ¬HexDigit digit
      · exact spelled_other digits other
      -- No digits at all have an error of the same kind, found before any is read.
      by_cases nothing : digits = []
      · rw [nothing, String.ofList_nil]
        rfl
      have large := (bad.resolve_left nothing).resolve_left other
      rw [spelled_hex digits nothing (by simpa using other), if_pos large]
  | beyond nonempty hex small large =>
      rw [spelled_hex digits nonempty hex, if_neg (by omega), CodePoint.check, CodePoint.ofNat?,
        dif_neg (by omega)]
      rfl

/-- Digits spell a code point, or something is wrong with them. -/
theorem spelling_or_faulty (digits : List Char) :
    (∃ spelling : Spelling, spelling.digits = digits) ∨ ∃ error, Faulty digits error := by
  by_cases bad : digits = [] ∨ (∃ digit ∈ digits, ¬HexDigit digit) ∨ 0x100000000 ≤ number digits
  · exact Or.inr ⟨_, .invalid bad⟩
  · simp only [not_or, not_exists, not_and, not_not, Nat.not_le] at bad
    obtain ⟨nonempty, hex, small⟩ := bad
    by_cases bounded : number digits ≤ 0x10FFFF
    · exact Or.inl ⟨⟨digits, nonempty, hex, bounded⟩, rfl⟩
    · exact Or.inr ⟨_, .beyond nonempty hex small (Nat.lt_of_not_le bounded)⟩

theorem closer_apart (spelling : Spelling) : closer ∉ spelling.digits := fun member =>
  absurd (spelling.hex closer member) (by decide)

theorem escape_reads (offset : Nat) (spelling : Spelling) (after : List Char) :
    readFrom offset (opener ++ (spelling.body ++ after)) =
      (readFrom (offset + byteLength (opener ++ spelling.body)) after).map
        ([spelling.point] ++ ·) := by
  have size : offset + byteLength (opener ++ spelling.body) =
      offset + 3 + byteLength spelling.digits + 1 := by
    have ends : byteLength opener = 3 ∧ byteLength [closer] = 1 := by decide
    rw [Spelling.body, byteLength_append, byteLength_append, ends.1, ends.2]
    omega
  rw [size, Spelling.body, List.append_assoc, List.singleton_append,
    closed_reads offset _ _ (closer_apart spelling), spelled_spelling]
  rfl

/-- An escaped text is read as its code points, and reading goes on behind it. -/
theorem escaped_reads (offset : Nat) (text : Escaped) (rest : List Char)
    (stops : EndOrOpener rest) : readFrom offset (text.chars ++ rest) =
      (readFrom (offset + byteLength text.chars) rest).map (text.points ++ ·) := by
  induction text generalizing offset with
  | plain last => exact literal_reads offset last rest stops
  | escape before spelling behind ih =>
      have front : EndOrOpener (opener ++ (spelling.body ++ (behind.chars ++ rest))) :=
        Or.inr ⟨_, rfl⟩
      have row : (Escaped.escape before spelling behind).chars ++ rest =
          before.chars ++ (opener ++ (spelling.body ++ (behind.chars ++ rest))) := by
        simp [Escaped.chars]
      have size : byteLength (Escaped.escape before spelling behind).chars =
          byteLength before.chars + byteLength (opener ++ spelling.body) +
            byteLength behind.chars := by
        simp only [Escaped.chars, byteLength_append]
        omega
      rw [row, literal_reads offset before _ front, escape_reads, ih, prepended [spelling.point],
        prepended before.points, size, ← Nat.add_assoc, ← Nat.add_assoc]
      rfl

theorem blamed_reads (offset : Nat) (rest : List Char) (error : EscapeError)
    (blamed : Blamed offset rest error) : readFrom offset (opener ++ rest) = .error error := by
  cases blamed with
  | unclosed endless => exact unclosed_reads offset rest endless
  | closed cut first faulty =>
      rw [cut, closed_reads offset _ _ first, spelled_faulty _ error faulty]
      rfl

theorem blamed_exists (offset : Nat) (rest : List Char) (shut : ¬Opens rest) :
    ∃ error, Blamed offset rest error := by
  by_cases endless : closer ∈ rest
  · obtain ⟨digits, after, cut, first⟩ := List.eq_append_cons_of_mem endless
    rcases spelling_or_faulty digits with ⟨spelling, rfl⟩ | ⟨error, faulty⟩
    · have opened : Opens rest := ⟨spelling, after, by simp [Spelling.body, cut]⟩
      exact absurd opened shut
    · exact ⟨error, .closed cut first faulty⟩
  · exact ⟨_, .unclosed endless⟩

/-! Every text has a division, and an escaped text has only one. -/

theorem first_opener (text : List Char) (opened : opener <:+: text) :
    ∃ (before : Literal) (rest : List Char), text = before.chars ++ (opener ++ rest) := by
  induction text with
  | nil => exact absurd opened (by decide)
  | cons char rest ih =>
      by_cases front : opener <+: char :: rest
      · obtain ⟨behind, row⟩ := front
        exact ⟨⟨[], by decide⟩, behind, row.symm⟩
      · obtain ⟨before, behind, row⟩ := ih ((List.infix_cons_iff.mp opened).resolve_left front)
        refine ⟨⟨char :: before.chars, ?_⟩, behind, congrArg (List.cons char) row⟩
        rw [List.infix_cons_iff, not_or]
        refine ⟨fun early => front (early.trans ?_), before.unopened⟩
        rw [row]
        exact List.prefix_append (char :: before.chars) _

theorem division_exists (text : List Char) :
    ∃ parts : Escaped, text = parts.chars ∨
      ∃ rest, text = parts.chars ++ (opener ++ rest) ∧ ¬Opens rest := by
  induction size : text.length using Nat.strongRecOn generalizing text with
  | ind size ih =>
      subst size
      by_cases opened : opener <:+: text
      · obtain ⟨before, rest, row⟩ := first_opener text opened
        by_cases opens : Opens rest
        · obtain ⟨spelling, after, cut⟩ := opens
          have shorter : after.length < text.length := by
            have three : opener.length = 3 := rfl
            rw [row, ← cut, List.length_append, List.length_append, List.length_append]
            omega
          -- What stands behind the escape has a division of its own.
          obtain ⟨parts, division⟩ := ih _ shorter after rfl
          refine ⟨.escape before spelling parts, ?_⟩
          rcases division with whole | ⟨behind, broken, shut⟩
          · left
            rw [row, ← cut, whole]
            rfl
          · right
            refine ⟨behind, ?_, shut⟩
            rw [row, ← cut, broken]
            simp [Escaped.chars]
        · exact ⟨.plain before, Or.inr ⟨rest, row, opens⟩⟩
      · exact ⟨.plain ⟨text, opened⟩, Or.inl rfl⟩

/-- Where an opener starts, no stretch without one can go on. -/
theorem stretch_empty (front stretch behind other : List Char)
    (unopened : ¬opener <:+: front ++ stretch)
    (row : opener ++ behind = stretch ++ (opener ++ other)) : stretch = [] := by
  by_contra nonempty
  have opened : opener <+: stretch ++ (opener ++ other) := by
    rw [← row]
    exact List.prefix_append opener behind
  have inside := opener_within stretch _ (Or.inr ⟨other, rfl⟩) nonempty opened
  exact unopened (inside.isInfix.trans (List.suffix_append front stretch).isInfix)

theorem literal_cut (first second : Literal) (behind other : List Char)
    (same : first.chars ++ (opener ++ behind) = second.chars ++ (opener ++ other)) :
    first = second ∧ behind = other := by
  rcases List.append_eq_append_iff.mp same with ⟨stretch, longer, row⟩ | ⟨stretch, longer, row⟩
  · have unopened := second.unopened
    rw [longer] at unopened
    obtain rfl := stretch_empty _ stretch behind other unopened row
    rw [List.append_nil] at longer
    exact ⟨Literal.ext longer.symm, List.append_cancel_left row⟩
  · have unopened := first.unopened
    rw [longer] at unopened
    obtain rfl := stretch_empty _ stretch other behind unopened row
    rw [List.append_nil] at longer
    exact ⟨Literal.ext longer, (List.append_cancel_left row).symm⟩

theorem spelling_cut (first second : Spelling) (behind other : List Char)
    (same : first.body ++ behind = second.body ++ other) : first = second ∧ behind = other := by
  have cut := untilCloser_some first.digits behind (closer_apart first)
  simp only [Spelling.body, List.append_assoc, List.singleton_append] at same
  rw [same, untilCloser_some second.digits other (closer_apart second)] at cut
  obtain ⟨digits, rest⟩ := Prod.mk.inj (Option.some.inj cut)
  exact ⟨Spelling.ext digits.symm, rest.symm⟩

theorem escape_opened (before : Literal) (spelling : Spelling) (behind : Escaped) :
    opener <:+: (Escaped.escape before spelling behind).chars :=
  ⟨before.chars, spelling.body ++ behind.chars, List.append_assoc _ _ _⟩

theorem chars_injective : Function.Injective Escaped.chars := by
  intro first second same
  induction first generalizing second with
  | plain last =>
      cases second with
      | plain other => exact congrArg Escaped.plain (Literal.ext same)
      | escape before spelling behind =>
          have opened := escape_opened before spelling behind
          rw [← same] at opened
          exact absurd opened last.unopened
  | escape before spelling behind ih =>
      cases second with
      | plain other =>
          have opened := escape_opened before spelling behind
          rw [same] at opened
          exact absurd opened other.unopened
      | escape otherBefore otherSpelling otherBehind =>
          obtain ⟨rfl, row⟩ := literal_cut _ _ _ _ same
          obtain ⟨rfl, rest⟩ := spelling_cut _ _ _ _ row
          rw [ih rest]

theorem whole_reads (offset : Nat) (parts : Escaped) :
    readFrom offset parts.chars = .ok parts.points := by
  have read := escaped_reads offset parts [] (Or.inl rfl)
  rw [List.append_nil, readFrom] at read
  rw [read]
  exact congrArg Except.ok (List.append_nil _)

theorem broken_reads (parts : Escaped) (rest : List Char) (error : EscapeError)
    (blamed : Blamed (String.ofList parts.chars).utf8ByteSize rest error) :
    readFrom 0 (parts.chars ++ (opener ++ rest)) = .error error := by
  rw [← byteLength_utf8] at blamed
  rw [escaped_reads 0 parts _ (Or.inr ⟨rest, rfl⟩), Nat.zero_add,
    blamed_reads _ rest error blamed]
  rfl

theorem read_cases (text : String) :
    (∃ parts : Escaped, text.toList = parts.chars ∧ read text = .ok parts.points) ∨
      ∃ (parts : Escaped) (rest : List Char) (error : EscapeError),
        (text.toList = parts.chars ++ (opener ++ rest) ∧ ¬Opens rest ∧
          Blamed (String.ofList parts.chars).utf8ByteSize rest error) ∧
        read text = .error error := by
  obtain ⟨parts, row | ⟨rest, row, shut⟩⟩ := division_exists text.toList
  · refine Or.inl ⟨parts, row, ?_⟩
    rw [read, row, whole_reads]
  · obtain ⟨error, blamed⟩ := blamed_exists (String.ofList parts.chars).utf8ByteSize rest shut
    refine Or.inr ⟨parts, rest, error, ⟨row, shut, blamed⟩, ?_⟩
    rw [read, row, broken_reads parts rest error blamed]

theorem read_ok_iff (text : String) (points : List CodePoint) : read text = .ok points ↔
    ∃ parts : Escaped, text.toList = parts.chars ∧ points = parts.points := by
  constructor
  · intro done
    rcases read_cases text with ⟨parts, row, again⟩ | ⟨_, _, _, _, failed⟩
    · rw [again] at done
      exact ⟨parts, row, (Except.ok.inj done).symm⟩
    · rw [failed] at done
      cases done
  · rintro ⟨parts, row, rfl⟩
    rw [read, row, whole_reads]

theorem read_error_iff (text : String) (error : EscapeError) : read text = .error error ↔
    ∃ (parts : Escaped) (rest : List Char), text.toList = parts.chars ++ (opener ++ rest) ∧
      ¬Opens rest ∧ Blamed (String.ofList parts.chars).utf8ByteSize rest error := by
  constructor
  · intro failed
    rcases read_cases text with ⟨_, _, done⟩ | ⟨parts, rest, other, broken, again⟩
    · rw [done] at failed
      cases failed
    · obtain rfl : other = error := Except.error.inj (again.symm.trans failed)
      exact ⟨parts, rest, broken⟩
  · rintro ⟨parts, rest, row, _, blamed⟩
    rw [read, row, broken_reads parts rest error blamed]

/-- Reading follows the grammar of escaped text. A text is read exactly if it is a
row of literal stretches and valid escapes, which it is in one way at most, and then
as their code points in order. Any other text is such a row with an opener behind it
that opens no escape, and the error is the one that this opener deserves. -/
theorem read_recognizes_escaped (text : String) :
    (∀ points, read text = .ok points ↔
      ∃ parts : Escaped, text.toList = parts.chars ∧ points = parts.points) ∧
    Function.Injective Escaped.chars ∧
    ∀ error, read text = .error error ↔
      ∃ (parts : Escaped) (rest : List Char), text.toList = parts.chars ++ (opener ++ rest) ∧
        ¬Opens rest ∧ Blamed (String.ofList parts.chars).utf8ByteSize rest error :=
  ⟨read_ok_iff text, chars_injective, read_error_iff text⟩

end Text.Escape
end Wobbly
