import Wobbly.Ending
import Wobbly.Proofs.HexTexts
import Wobbly.Proofs.Unpaired

/-! Commands in a row. Encoding prints hex text, from which its bytes are read
back, and under the policy that wrote these bytes they are valid and decode to the
joined code points. Replacing is no exception: what it puts in place of a surrogate
is a character, so nothing is left to be replaced when it is read again. -/
namespace Wobbly
open CodePoint Sequence Decoding Encoding

namespace Sequence

/-- The code points that are left of a sequence once a policy has written it. -/
def leftUnder : Policy → List CodePoint → List CodePoint
  | .replace, points => substituted points
  | .accept, points => points
  | .reject, points => points

end Sequence

/-- Bytes are read under the policy that wrote them. -/
theorem encodeUnder_reads_back (policy : Policy) (points : List CodePoint) (bytes : List UInt8)
    (written : encodeUnder policy points = .ok bytes) :
    decodeAll bytes policy = .ok (leftUnder policy (Units.normalize points)) := by
  cases policy with
  | accept =>
      rw [encodeUnder_accept] at written
      cases written
      rw [encode_grouped, Units.grouped_normalize]
      rfl
  | reject =>
      cases scalar : hasSurrogate (Units.normalize points) with
      | true =>
          obtain ⟨error, failed⟩ := (encodeUnder_reject_fails_iff points).mpr scalar
          rw [failed] at written
          cases written
      | false =>
          rw [encodeUnder_reject_ok points scalar, ← encode_normalize] at written
          cases written
          exact scalar_reads_back _ scalar .reject
  | replace =>
      rw [encodeUnder_replace] at written
      cases written
      exact scalar_reads_back _ (substituted_scalar _) .replace

namespace Command
variable {terminal : Nat} {text printed : String} {policy : Policy} {bytes : List UInt8}
  {points : List CodePoint}

theorem encode_parts (done : (run terminal (.encode text policy)).result = .ok printed) :
    ∃ points bytes, Text.Escape.read text = .ok points ∧
      encodeUnder policy points = .ok bytes ∧ printed = Text.HexText.write bytes := by
  change encodeText text policy = .ok printed at done
  unfold encodeText at done
  split at done
  · cases done
  next points read =>
  split at done
  · cases done
  next bytes written =>
  exact ⟨points, bytes, read, written, (Except.ok.inj done).symm⟩

theorem decode_done (read : decodeAll bytes policy = .ok points) :
    (run terminal (.decode bytes policy 0 none)).result = .ok (showPoints points) := by
  change ((decodeAll bytes policy).map showPoints).mapError Failure.decode = _
  rw [read]
  rfl

theorem validate_done (read : decodeAll bytes policy = .ok points) :
    (run terminal (.validate bytes policy)).result = .ok ("valid under " ++ policy.name) := by
  have valid : Decoding.validate bytes ⟨0, bytes.length⟩ policy = .ok () := by
    rw [validate_exact _ _ _ ⟨Nat.zero_le _, Nat.le_refl _⟩, ← decodeAll, read]
    rfl
  change ((Decoding.validate bytes ⟨0, bytes.length⟩ policy).map _).mapError Failure.decode = _
  rw [valid]
  rfl

/-- What encoding prints is hex text. Its bytes are valid under the same policy,
and decoding them shows the code points of the given text with their pairs joined;
only replacing also shows a replacement character for every surrogate. -/
theorem printed_encoding_reads_back (terminal : Nat) (text : String) (policy : Policy)
    (printed : String) (done : (run terminal (.encode text policy)).result = .ok printed) :
    ∃ points bytes, Text.Escape.read text = .ok points ∧
      Text.HexText.read printed = .ok bytes ∧
      ∀ width, (run width (.validate bytes policy)).result = .ok ("valid under " ++ policy.name) ∧
        (run width (.decode bytes policy 0 none)).result =
          .ok ("code points: "
            ++ .ofList (labelled (leftUnder policy (Units.join (Units.split points))))
            ++ "\ntext: " ++ lossyText (leftUnder policy (Units.join (Units.split points)))) := by
  obtain ⟨points, bytes, read, written, rfl⟩ := encode_parts done
  have again := encodeUnder_reads_back policy points bytes written
  refine ⟨points, bytes, read, Text.HexText.read_write bytes, ?_⟩
  intro width
  exact ⟨validate_done again, decode_done again⟩

-- A pair in two escapes and a lone lead, which is replaced.
theorem printed_encoding_reads_back_replaced :
    (run 80 (.encode "\\u\x7bD83D\x7d\\u\x7bDE00\x7d\\u\x7bD800\x7d" .replace)).result =
        .ok "f09f9880efbfbd" ∧
      Text.HexText.read "f09f9880efbfbd" = .ok [0xF0, 0x9F, 0x98, 0x80, 0xEF, 0xBF, 0xBD] ∧
      (run 80 (.validate [0xF0, 0x9F, 0x98, 0x80, 0xEF, 0xBF, 0xBD] .replace)).result =
        .ok "valid under replace" ∧
      (run 80 (.decode [0xF0, 0x9F, 0x98, 0x80, 0xEF, 0xBF, 0xBD] .replace 0 none)).result =
        .ok "code points: U+1F600 U+FFFD\ntext: 😀\uFFFD" := by
  have done : (run 80 (.encode "\\u\x7bD83D\x7d\\u\x7bDE00\x7d\\u\x7bD800\x7d" .replace)).result =
      .ok "f09f9880efbfbd" := by cbv
  have read : Text.Escape.read "\\u\x7bD83D\x7d\\u\x7bDE00\x7d\\u\x7bD800\x7d" =
      .ok [⟨0xD83D, by decide⟩, ⟨0xDE00, by decide⟩, ⟨0xD800, by decide⟩] := by cbv
  have hex : Text.HexText.read "f09f9880efbfbd" =
      .ok [0xF0, 0x9F, 0x98, 0x80, 0xEF, 0xBF, 0xBD] := by cbv
  obtain ⟨points, bytes, sameRead, sameHex, later⟩ := printed_encoding_reads_back 80 _ _ _ done
  obtain rfl := Except.ok.inj (read.symm.trans sameRead)
  obtain rfl := Except.ok.inj (hex.symm.trans sameHex)
  refine ⟨done, hex, (later 80).1, (later 80).2.trans ?_⟩
  cbv

end Command
end Wobbly
