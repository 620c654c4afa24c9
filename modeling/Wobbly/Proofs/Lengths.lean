import Wobbly.Proofs.Policies
import Wobbly.Proofs.UnitTexts

/-! Lengths known before anything is written. What a policy lets through takes as
many bytes as the group it was let through for, since a surrogate and the
replacement character have forms of the same width. So one measure holds for every
policy. A code point takes one to three bytes for each of its 16-bit units, and
units are the same whether a pair is stored whole or in halves. -/
namespace Wobbly
open CodePoint Sequence Encoding

namespace Encoding
variable {policy : Policy}

theorem letThrough_width (position : Nat) (point written : CodePoint)
    (passed : letThrough policy position point = .ok written) : written.width = point.width := by
  unfold letThrough at passed
  split at passed
  · next surrogate =>
    cases policy with
    | accept =>
        cases passed
        rfl
    | reject => cases passed
    | replace =>
        cases passed
        exact (surrogate_width point surrogate).symm
  · cases passed
    rfl

/-- Groups are written one by one, and all of them or none. -/
theorem encodeGroups_cons_ok (group : Nat × CodePoint) (rest : List (Nat × CodePoint))
    (bytes : List UInt8) (written : encodeGroups policy (group :: rest) = .ok bytes) :
    ∃ point tail, letThrough policy group.1 group.2 = .ok point ∧
      encodeGroups policy rest = .ok tail ∧ bytes = point.bytes ++ tail := by
  rw [encodeGroups] at written
  cases passed : letThrough policy group.1 group.2 with
  | error unpaired =>
      rw [passed] at written
      cases written
  | ok point =>
      rw [passed] at written
      cases later : encodeGroups policy rest with
      | error unpaired =>
          rw [later] at written
          cases written
      | ok tail =>
          rw [later] at written
          cases written
          exact ⟨point, tail, rfl, rfl, rfl⟩

theorem encodeGroups_length (groups : List (Nat × CodePoint)) (bytes : List UInt8)
    (written : encodeGroups policy groups = .ok bytes) :
    bytes.length = ((groups.map Prod.snd).flatMap CodePoint.bytes).length := by
  induction groups generalizing bytes with
  | nil =>
      cases written
      rfl
  | cons group rest ih =>
      obtain ⟨point, tail, passed, later, rfl⟩ := encodeGroups_cons_ok group rest bytes written
      rw [List.map_cons, List.flatMap_cons, List.length_append, List.length_append, ih tail later,
        bytes_length, bytes_length, letThrough_width group.1 group.2 point passed]

/-- However far the groups have been written, the measured length is not exceeded. -/
theorem written_within (points : List CodePoint) (done todo : List (Nat × CodePoint))
    (bytes : List UInt8) (parts : groups points = done ++ todo)
    (written : encodeGroups policy done = .ok bytes) : bytes.length ≤ encodedLength points := by
  rw [encodeGroups_length done bytes written, encodedLength_exact, encode, grouped, parts,
    List.map_append, List.flatMap_append, List.length_append]
  exact Nat.le_add_right _ _

theorem encodeUnder_length (points : List CodePoint) (bytes : List UInt8)
    (written : encodeUnder policy points = .ok bytes) : bytes.length = encodedLength points := by
  rw [encodedLength_exact]
  exact encodeGroups_length (groups points) bytes written

end Encoding

namespace Units

theorem halves_width (point : CodePoint) :
    (halves point).length ≤ point.width ∧ point.width ≤ 3 * (halves point).length := by
  have measured := bytes_length point
  by_cases small : point.value < 0x10000
  · rw [halves_small point small]
    rcases bytes_cases point with ⟨_, spelled⟩ | ⟨_, _, spelled⟩ | ⟨_, _, spelled⟩ | ⟨large, _⟩
    · simp [← measured, spelled]
    · simp [← measured, spelled]
    · simp [← measured, spelled]
    · omega
  · obtain ⟨lead, trail, pair, _⟩ := halves_large point (Nat.le_of_not_lt small)
    rw [pair]
    rcases bytes_cases point with ⟨low, _⟩ | ⟨_, low, _⟩ | ⟨_, low, _⟩ | ⟨_, spelled⟩
    · omega
    · omega
    · omega
    · simp [← measured, spelled]

theorem split_width (points : List CodePoint) :
    (split points).length ≤ (points.flatMap CodePoint.bytes).length ∧
      (points.flatMap CodePoint.bytes).length ≤ 3 * (split points).length := by
  induction points with
  | nil => exact ⟨Nat.le_refl 0, Nat.le_refl 0⟩
  | cons point rest ih =>
      have one := halves_width point
      rw [split_cons, List.flatMap_cons, List.length_append, List.length_append, bytes_length]
      omega

/-- Joining pairs changes no unit. -/
theorem split_grouped (points : List CodePoint) : split (grouped points) = split points := by
  rw [grouped_normalize, normalize, split_join]

theorem split_length (points : List CodePoint) :
    (split points).length ≤ encodedLength points ∧
      encodedLength points ≤ 3 * (split points).length := by
  rw [← split_grouped points, encodedLength_exact]
  exact split_width (grouped points)

end Units

/-- The measured length is what every policy writes if it writes at all, also where
replacing puts another code point in the place of a surrogate, and no policy goes
beyond it on the way. It lies between one and three bytes for each 16-bit unit. -/
theorem measured_length_exact (points : List CodePoint) :
    (∀ policy bytes, encodeUnder policy points = .ok bytes →
      bytes.length = encodedLength points) ∧
    (encode points).length = encodedLength points ∧
    (∀ policy done todo bytes, groups points = done ++ todo →
      encodeGroups policy done = .ok bytes → bytes.length ≤ encodedLength points) ∧
    (Units.split points).length ≤ encodedLength points ∧
      encodedLength points ≤ 3 * (Units.split points).length := by
  refine ⟨?_, (encodedLength_exact points).symm, ?_, Units.split_length points⟩
  · intro policy bytes written
    exact encodeUnder_length points bytes written
  · intro policy done todo bytes parts written
    exact written_within points done todo bytes parts written

-- A pair in halves and a lone lead, which is replaced; rejecting stops behind the pair.
theorem measured_length_exact_replaced :
    encodeUnder .replace [⟨0xD83D, by decide⟩, ⟨0xDE00, by decide⟩, ⟨0xD800, by decide⟩] =
        .ok [0xF0, 0x9F, 0x98, 0x80, 0xEF, 0xBF, 0xBD] ∧
      [0xF0, 0x9F, 0x98, 0x80, 0xEF, 0xBF, 0xBD].length =
        encodedLength [⟨0xD83D, by decide⟩, ⟨0xDE00, by decide⟩, ⟨0xD800, by decide⟩] ∧
      encodeGroups .reject [(0, ⟨0x1F600, by decide⟩)] = .ok [0xF0, 0x9F, 0x98, 0x80] ∧
      [0xF0, 0x9F, 0x98, 0x80].length ≤
        encodedLength [⟨0xD83D, by decide⟩, ⟨0xDE00, by decide⟩, ⟨0xD800, by decide⟩] := by
  have written : encodeUnder .replace [⟨0xD83D, by decide⟩, ⟨0xDE00, by decide⟩,
      ⟨0xD800, by decide⟩] = .ok [0xF0, 0x9F, 0x98, 0x80, 0xEF, 0xBF, 0xBD] := by cbv
  have begun : encodeGroups .reject [(0, ⟨0x1F600, by decide⟩)] =
      .ok [0xF0, 0x9F, 0x98, 0x80] := by cbv
  obtain ⟨exactly, _, within, _⟩ := measured_length_exact
    [⟨0xD83D, by decide⟩, ⟨0xDE00, by decide⟩, ⟨0xD800, by decide⟩]
  exact ⟨written, exactly _ _ written, begun,
    within _ _ [(2, ⟨0xD800, by decide⟩)] _ (by decide) begun⟩

end Wobbly
