import Wobbly.Proofs.Policies

/-! Damaged bytes, mended. Reading with replacement and writing again gives the
UTF-8 form of a text: every piece that a walk leaves behind is a character, whether
it was kept or put in the place of a byte, and the forms of characters stand side
by side without melting into others. So mending is done after one time, and bytes
that it leaves alone were a text before. -/
namespace Wobbly
open CodePoint Reading Sequence Decoding Encoding

def mend (bytes : List UInt8) : Except DecodeError (List UInt8) :=
  (decodeAll bytes .replace).map encode

namespace Reading
variable {offset : Nat} {afterLead : Bool} {window : List UInt8} {pieces : List Piece}
  {stopped : Option Nat}

theorem run_replace_scalar (run : Run .replace offset afterLead window pieces stopped) :
    hasSurrogate (pieces.map Piece.point) = false := by
  induction run with
  | done => rfl
  | keep point kept _ ih =>
      have scalar : point.isSurrogate = false := by simpa [welcome] using kept
      exact (hasSurrogate_cons point _).mpr ⟨scalar, ih⟩
  | replace _ _ _ ih => exact (hasSurrogate_cons replacement _).mpr ⟨rfl, ih⟩
  | stop _ _ => rfl

/-- A kept code point takes the bytes it was read from, and a replaced byte
becomes the three of the replacement character. -/
theorem run_replace_length (run : Run .replace offset afterLead window pieces stopped) :
    ((pieces.map Piece.point).flatMap CodePoint.bytes).length ≤ 3 * window.length := by
  induction run with
  | done => exact Nat.le_refl 0
  | keep point _ _ ih =>
      rw [List.map_cons, List.flatMap_cons, List.length_append, List.length_append, Piece.point]
      omega
  | replace _ _ _ ih =>
      have three : replacement.bytes.length = 3 := rfl
      rw [List.map_cons, List.flatMap_cons, List.length_append, List.length_cons, Piece.point,
        three]
      omega
  | stop _ _ => exact Nat.zero_le _

end Reading

theorem replace_reads_scalars (bytes : List UInt8) :
    ∃ points, decodeAll bytes .replace = .ok points ∧ hasSurrogate points = false ∧
      (encode points).length ≤ 3 * bytes.length := by
  obtain ⟨pieces, run⟩ := replace_run 0 false bytes
  have scalar := run_replace_scalar run
  refine ⟨pieces.map Piece.point, ?_, scalar, ?_⟩
  · rw [decodeAll_window, decodeWindow_ok_iff]
    exact ⟨pieces, run, rfl⟩
  · rw [encode_scalar _ scalar]
    exact run_replace_length run

theorem scalar_reads_back (points : List CodePoint) (scalar : hasSurrogate points = false)
    (policy : Policy) : decodeAll (encode points) policy = .ok points := by
  rw [encode_scalar points scalar]
  exact decodeAll_admitted policy points (admitted_scalar policy false points scalar)

theorem mend_fixed_iff (bytes : List UInt8) (points : List CodePoint)
    (read : decodeAll bytes .replace = .ok points) (scalar : hasSurrogate points = false) :
    encode points = bytes ↔ ∃ text, decodeAll bytes .reject = .ok text := by
  constructor
  · intro same
    rw [encode_scalar points scalar] at same
    exact ⟨points, (decodeAll_reject_iff bytes points).mpr ⟨same.symm, scalar⟩⟩
  · rintro ⟨text, rejected⟩
    have again := replace_of_reject bytes _ text rejected
    obtain rfl : points = text := Except.ok.inj (read.symm.trans again)
    rw [encode_scalar points scalar]
    exact ((decodeAll_reject_iff bytes points).mp rejected).1.symm

/-- Any bytes can be mended. What comes out has no surrogates and is read alike
under every policy, so mending it again changes nothing. Bytes are left as they
are exactly if they were readable under the strictest policy, and they never grow
to more than three times their length. -/
theorem mending_sound_and_final (bytes : List UInt8) :
    ∃ points, decodeAll bytes .replace = .ok points ∧ hasSurrogate points = false ∧
      (∀ policy, decodeAll (encode points) policy = .ok points) ∧
      mend bytes = .ok (encode points) ∧ mend (encode points) = .ok (encode points) ∧
      (mend bytes = .ok bytes ↔ ∃ text, decodeAll bytes .reject = .ok text) ∧
      (encode points).length ≤ 3 * bytes.length := by
  obtain ⟨points, read, scalar, short⟩ := replace_reads_scalars bytes
  have everywhere := scalar_reads_back points scalar
  have mended : mend bytes = .ok (encode points) := by
    rw [mend, read]
    rfl
  refine ⟨points, read, scalar, everywhere, mended, ?_, ?_, short⟩
  · rw [mend, everywhere .replace]
    rfl
  · rw [mended, Except.ok.injEq]
    exact mend_fixed_iff bytes points read scalar

end Wobbly
