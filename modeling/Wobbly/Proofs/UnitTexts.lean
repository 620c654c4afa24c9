import Wobbly.Proofs.RoundTrip

/-! Texts of 16-bit units. Joining loses nothing, since a supplementary code
point is split into exactly the two halves that were joined. So a list of units
is carried by the encoding of what it joins to, every accepted text carries
exactly one list, and two sequences are encoded alike exactly if they have the
same units. -/
namespace Wobbly
open CodePoint Sequence Decoding Encoding

namespace Units

theorem halves_point (unit : UInt16) : halves (point unit) = [unit] := by
  have small : (point unit).value < 0x10000 := unit.toNat_lt
  rw [halves_small _ small]
  exact congrArg (· :: []) UInt16.ofNat_toNat

theorem halves_joined (lead trail : UInt16) (whole : CodePoint)
    (joined : (point lead).combine? (point trail) = some whole) : halves whole = [lead, trail] := by
  obtain ⟨⟨isLead, isTrail⟩, value⟩ := (combine_some_iff _ _ whole).mp joined
  rw [lead_iff] at isLead
  rw [trail_iff] at isTrail
  simp only [point] at isLead isTrail value
  have high : 0xD800 + (whole.value - 0x10000) / 0x400 = lead.toNat := by omega
  have low : 0xDC00 + (whole.value - 0x10000) % 0x400 = trail.toNat := by omega
  rw [halves, if_neg (by omega), high, low, UInt16.ofNat_toNat, UInt16.ofNat_toNat]

theorem split_join (units : List UInt16) : split (join units) = units := by
  fun_induction join units with
  | case1 => rfl
  | case2 last => exact (split_cons _ []).trans (congrArg (· ++ []) (halves_point last))
  | case3 first second rest whole joined ih =>
      rw [split_cons, ih, halves_joined first second whole joined]
      rfl
  | case4 first second rest _ ih =>
      rw [split_cons, ih, halves_point]
      rfl

theorem join_split_iff (points : List CodePoint) :
    join (split points) = points ↔ PairFree points := by
  rw [← grouped_fixed_iff, grouped_normalize, normalize]

theorem join_pairFree (units : List UInt16) : PairFree (join units) := by
  rw [← join_split_iff, split_join]

end Units

theorem encode_eq_iff (first second : List CodePoint) :
    encode first = encode second ↔ Units.split first = Units.split second := by
  constructor
  · intro same
    have read := encode_grouped first
    rw [same, encode_grouped second] at read
    -- Both encodings read back as the joined units, and splitting these gives them back.
    have joined : Units.join (Units.split second) = Units.join (Units.split first) := by
      rw [Units.grouped_normalize, Units.grouped_normalize] at read
      exact Except.ok.inj read
    have units := congrArg Units.split joined
    rw [Units.split_join, Units.split_join] at units
    exact units.symm
  · intro same
    unfold encode
    rw [Units.grouped_normalize, Units.grouped_normalize, Units.normalize, same,
      ← Units.normalize]

theorem carried_reads_back (units : List UInt16) :
    decodeAll (encode (Units.join units)) .accept = .ok (Units.join units) := by
  have free := Units.join_pairFree units
  rw [decodeAll_accept_iff]
  exact ⟨encode_of_pairFree _ free, free⟩

theorem accepted_carries (bytes : List UInt8) (points : List CodePoint)
    (accepted : decodeAll bytes .accept = .ok points) :
    Units.join (Units.split points) = points ∧
      encode (Units.join (Units.split points)) = bytes := by
  obtain ⟨row, free⟩ := (decodeAll_accept_iff bytes points).mp accepted
  have same := (Units.join_split_iff points).mpr free
  rw [same, encode_of_pairFree points free]
  exact ⟨rfl, row.symm⟩

theorem carried_bijective :
    Set.BijOn (fun units => encode (Units.join units)) Set.univ
      {bytes | ∃ points, decodeAll bytes .accept = .ok points} := by
  refine ⟨?_, ?_, ?_⟩
  · intro units _
    exact ⟨_, carried_reads_back units⟩
  · intro first _ second _ same
    have units := (encode_eq_iff _ _).mp same
    rw [Units.split_join, Units.split_join] at units
    exact units
  · rintro bytes ⟨points, accepted⟩
    exact ⟨Units.split points, Set.mem_univ _, (accepted_carries bytes points accepted).2⟩

/-- Every list of 16-bit units is carried by accepted bytes without loss, and
accepted bytes carry nothing else: joining and encoding is a bijection between
the two. Sequences with the same encoding are those with the same units. -/
theorem units_carried_exactly :
    (∀ units, Units.split (Units.join units) = units ∧
      decodeAll (encode (Units.join units)) .accept = .ok (Units.join units)) ∧
    (∀ bytes points, decodeAll bytes .accept = .ok points →
      Units.join (Units.split points) = points ∧
        encode (Units.join (Units.split points)) = bytes) ∧
    Set.BijOn (fun units => encode (Units.join units)) Set.univ
      {bytes | ∃ points, decodeAll bytes .accept = .ok points} ∧
    ∀ first second, encode first = encode second ↔ Units.split first = Units.split second := by
  refine ⟨?_, accepted_carries, carried_bijective, encode_eq_iff⟩
  intro units
  exact ⟨Units.split_join units, carried_reads_back units⟩

-- A lone lead right before a pair: splitting puts two leads side by side.
theorem units_carried_exactly_lead_before_pair :
    decodeAll [0xED, 0xA0, 0x80, 0xF0, 0x90, 0x80, 0x80] .accept =
        .ok [⟨0xD800, by decide⟩, ⟨0x10000, by decide⟩] ∧
      encode (Units.join [0xD800, 0xD800, 0xDC00]) =
        [0xED, 0xA0, 0x80, 0xF0, 0x90, 0x80, 0x80] := by
  have accepted : decodeAll [0xED, 0xA0, 0x80, 0xF0, 0x90, 0x80, 0x80] .accept =
      .ok [⟨0xD800, by decide⟩, ⟨0x10000, by decide⟩] := by cbv
  exact ⟨accepted, (units_carried_exactly.2.1 _ _ accepted).2⟩

end Wobbly
