import Wobbly.Proofs.Recognition

/-! Strict reading and text. Without surrogates a sequence of code points is a
sequence of characters, and the form of every character is its UTF-8 encoding.
So rejecting surrogates recognizes exactly the UTF-8 forms of texts, and such a
form is read alike under every policy. -/
namespace Wobbly
open CodePoint Reading Sequence Decoding Encoding Grammar

def utf8 (text : String) : List UInt8 := text.toUTF8.data.toList

namespace CodePoint

theorem surrogate_iff (point : CodePoint) :
    point.isSurrogate = true ↔ 0xD800 ≤ point.value ∧ point.value ≤ 0xDFFF := decide_eq_true_iff

theorem ofChar_scalar (char : Char) : (ofChar char).isSurrogate = false := by
  have valid : char.toNat < 0xD800 ∨ 0xDFFF < char.toNat ∧ char.toNat < 0x110000 := char.valid
  rw [← Bool.not_eq_true, surrogate_iff]
  change ¬(0xD800 ≤ char.toNat ∧ char.toNat ≤ 0xDFFF)
  omega

theorem lossyChar_ofChar (char : Char) : (ofChar char).lossyChar = char := by
  rw [lossyChar, char?, ofChar_scalar]
  exact Char.ofNat_toNat char

theorem ofChar_lossyChar (point : CodePoint) (scalar : point.isSurrogate = false) :
    ofChar point.lossyChar = point := by
  have bounded := point.bounded
  have outside : ¬(0xD800 ≤ point.value ∧ point.value ≤ 0xDFFF) := by
    rw [← surrogate_iff, scalar]
    decide
  have valid : point.value.isValidChar := by
    unfold Nat.isValidChar
    omega
  rw [lossyChar, char?, scalar]
  apply CodePoint.ext
  change (Char.ofNat point.value).toNat = point.value
  rw [Char.ofNat, dif_pos valid]
  rfl

theorem bytes_ofChar (char : Char) : (ofChar char).bytes = String.utf8EncodeChar char := by
  have bounded : char.val.toNat ≤ 0x10FFFF := char_bounded char
  have value : (ofChar char).value = char.val.toNat := rfl
  have tail : ∀ bits, tailByte bits = .ofNat (bits % 0x40 + 0x80) := fun bits => by
    rw [tailByte, Nat.add_comm]
  rcases bytes_cases (ofChar char) with ⟨small, spelled⟩ | ⟨low, high, spelled⟩ |
    ⟨low, high, spelled⟩ | ⟨low, spelled⟩
  · rw [value] at small
    rw [spelled, value, String.utf8EncodeChar, if_pos (by omega)]
  · rw [value] at low high
    have top : char.val.toNat / 0x40 % 0x20 = char.val.toNat / 0x40 := Nat.mod_eq_of_lt (by omega)
    rw [spelled, value, String.utf8EncodeChar, if_neg (by omega), if_pos (by omega), top,
      Nat.add_comm, tail]
  · rw [value] at low high
    have top : char.val.toNat / 0x1000 % 0x10 = char.val.toNat / 0x1000 :=
      Nat.mod_eq_of_lt (by omega)
    rw [spelled, value, String.utf8EncodeChar, if_neg (by omega), if_neg (by omega),
      if_pos (by omega), top, Nat.add_comm, tail, tail]
  · rw [value] at low
    have top : char.val.toNat / 0x40000 % 0x08 = char.val.toNat / 0x40000 :=
      Nat.mod_eq_of_lt (by omega)
    rw [spelled, value, String.utf8EncodeChar, if_neg (by omega), if_neg (by omega),
      if_neg (by omega), top, Nat.add_comm, tail, tail, tail]

end CodePoint

namespace Sequence

theorem hasSurrogate_cons (point : CodePoint) (rest : List CodePoint) :
    hasSurrogate (point :: rest) = false ↔
      point.isSurrogate = false ∧ hasSurrogate rest = false := by
  simp [hasSurrogate]

theorem ofText_scalar (text : String) : hasSurrogate (ofText text) = false := by
  simp [hasSurrogate, ofText, ofChar_scalar]

theorem lossyText_ofText (text : String) : lossyText (ofText text) = text := by
  have chars : (ofText text).map lossyChar = text.toList := by
    rw [ofText, List.map_map]
    exact List.map_id'' lossyChar_ofChar text.toList
  rw [lossyText, chars, String.ofList_toList]

theorem ofText_lossyText (points : List CodePoint) (scalar : hasSurrogate points = false) :
    ofText (lossyText points) = points := by
  rw [ofText, lossyText, String.toList_ofList, List.map_map]
  induction points with
  | nil => rfl
  | cons point rest ih =>
      obtain ⟨first, later⟩ := (hasSurrogate_cons point rest).mp scalar
      rw [List.map_cons, ih later]
      exact congrArg (· :: rest) (ofChar_lossyChar point first)

end Sequence

theorem utf8_chars (text : String) : utf8 text = text.toList.flatMap String.utf8EncodeChar := by
  rw [utf8, String.toUTF8_eq_toByteArray, ← String.utf8Encode_toList, List.utf8Encode,
    List.toList_data_toByteArray]

theorem utf8_bytes (text : String) : utf8 text = (ofText text).flatMap CodePoint.bytes := by
  rw [utf8_chars, ofText, List.flatMap_map]
  simp only [bytes_ofChar]

/-- Without surrogates every policy admits a sequence. -/
theorem admitted_scalar (policy : Policy) (afterLead : Bool) (points : List CodePoint)
    (scalar : hasSurrogate points = false) : Admitted policy afterLead points := by
  induction points generalizing afterLead with
  | nil => trivial
  | cons point rest ih =>
      obtain ⟨first, later⟩ := (hasSurrogate_cons point rest).mp scalar
      exact ⟨by simp [welcome, first], ih point.isLead later⟩

theorem admitted_reject_iff (afterLead : Bool) (points : List CodePoint) :
    Admitted .reject afterLead points ↔ hasSurrogate points = false := by
  refine ⟨fun admitted => ?_, admitted_scalar .reject afterLead points⟩
  induction points generalizing afterLead with
  | nil => rfl
  | cons point rest ih =>
      obtain ⟨kept, later⟩ := admitted
      exact (hasSurrogate_cons point rest).mpr ⟨by simpa [welcome] using kept, ih _ later⟩

theorem decodeAll_reject_iff (bytes : List UInt8) (points : List CodePoint) :
    decodeAll bytes .reject = .ok points ↔
      bytes = points.flatMap CodePoint.bytes ∧ hasSurrogate points = false := by
  rw [decodeAll_window, strict_ok_iff (by decide), admitted_reject_iff]

theorem encode_scalar (points : List CodePoint) (scalar : hasSurrogate points = false) :
    encode points = points.flatMap CodePoint.bytes := by
  apply encode_of_pairFree
  rw [← admitted_accept_iff]
  exact admitted_scalar .accept false points scalar

namespace Grammar

theorem inRow_nil (unit : List UInt8) : InRow [] unit ↔ unit = [] := by
  cases unit <;> simp [InRow]

theorem inRow_cons (range : Nat × Nat) (row : List (Nat × Nat)) (unit : List UInt8) :
    InRow (range :: row) unit ↔ ∃ byte rest, unit = byte :: rest ∧
      (range.1 ≤ byte.toNat ∧ byte.toNat ≤ range.2) ∧ InRow row rest := by
  cases unit <;> simp [InRow]

theorem byte_exact (byte value : UInt8)
    (range : value.toNat ≤ byte.toNat ∧ byte.toNat ≤ value.toNat) : byte = value :=
  UInt8.toNat_inj.mp (Nat.le_antisymm range.2 range.1)

theorem no_surrogate_unit (unit : List UInt8)
    (low : ∀ b c : UInt8, unit = [0xED, b, c] → b.toNat ≤ 0x9F) :
    ¬LeadUnit unit ∧ ¬TrailUnit unit := by
  constructor
  · rintro ⟨b, c, spelled, second, _⟩
    have := low b c spelled
    omega
  · rintro ⟨b, c, spelled, second, _⟩
    have := low b c spelled
    omega

theorem textUnit_unit (unit : List UInt8) (listed : TextUnit unit) :
    ByteUnit unit ∧ ¬LeadUnit unit ∧ ¬TrailUnit unit := by
  obtain ⟨row, member, inside⟩ := listed
  simp only [textRows, List.mem_cons, List.not_mem_nil, or_false] at member
  rcases member with rfl | rfl | rfl | rfl | rfl | rfl | rfl | rfl | rfl <;>
    simp only [inRow_cons, inRow_nil] at inside
  · obtain ⟨a, _, rfl, first, rfl⟩ := inside
    exact ⟨.ascii first.2, no_surrogate_unit _ nofun⟩
  · obtain ⟨a, _, rfl, first, b, _, rfl, second, rfl⟩ := inside
    exact ⟨.two first second, no_surrogate_unit _ nofun⟩
  · obtain ⟨a, _, rfl, first, b, _, rfl, second, c, _, rfl, third, rfl⟩ := inside
    obtain rfl := byte_exact a 0xE0 first
    exact ⟨.threeLow second third, no_surrogate_unit _ nofun⟩
  · obtain ⟨a, _, rfl, first, b, _, rfl, second, c, _, rfl, third, rfl⟩ := inside
    refine ⟨.three (by omega) second third, no_surrogate_unit _ ?_⟩
    rintro _ _ ⟨⟩
    exact absurd first.2 (by decide)
  · obtain ⟨a, _, rfl, first, b, _, rfl, second, c, _, rfl, third, rfl⟩ := inside
    refine ⟨.three (by omega) ⟨second.1, by omega⟩ third, no_surrogate_unit _ ?_⟩
    rintro _ _ ⟨⟩
    exact second.2
  · obtain ⟨a, _, rfl, first, b, _, rfl, second, c, _, rfl, third, rfl⟩ := inside
    refine ⟨.three (by omega) second third, no_surrogate_unit _ ?_⟩
    rintro _ _ ⟨⟩
    exact absurd first.1 (by decide)
  · obtain ⟨a, _, rfl, first, b, _, rfl, second, c, _, rfl, third, d, _, rfl, last, rfl⟩ := inside
    obtain rfl := byte_exact a 0xF0 first
    exact ⟨.fourLow second third last, no_surrogate_unit _ nofun⟩
  · obtain ⟨a, _, rfl, first, b, _, rfl, second, c, _, rfl, third, d, _, rfl, last, rfl⟩ := inside
    exact ⟨.four first second third last, no_surrogate_unit _ nofun⟩
  · obtain ⟨a, _, rfl, first, b, _, rfl, second, c, _, rfl, third, d, _, rfl, last, rfl⟩ := inside
    obtain rfl := byte_exact a 0xF4 first
    exact ⟨.fourHigh second third last, no_surrogate_unit _ nofun⟩

theorem unit_textUnit (unit : List UInt8) (derived : ByteUnit unit) (notLead : ¬LeadUnit unit)
    (notTrail : ¬TrailUnit unit) : TextUnit unit := by
  cases derived with
  | ascii first =>
      exact ⟨[(0x00, 0x7F)], by decide, ⟨Nat.zero_le _, first⟩, trivial⟩
  | two first tail =>
      exact ⟨[(0xC2, 0xDF), (0x80, 0xBF)], by decide, first, tail, trivial⟩
  | threeLow second tail =>
      exact ⟨[(0xE0, 0xE0), (0xA0, 0xBF), (0x80, 0xBF)], by decide, by decide, second, tail,
        trivial⟩
  | @three a b c first second tail =>
      by_cases below : a.toNat ≤ 0xEC
      · exact ⟨[(0xE1, 0xEC), (0x80, 0xBF), (0x80, 0xBF)], by decide, ⟨first.1, below⟩, second,
          tail, trivial⟩
      by_cases above : 0xEE ≤ a.toNat
      · exact ⟨[(0xEE, 0xEF), (0x80, 0xBF), (0x80, 0xBF)], by decide, ⟨above, first.2⟩, second,
          tail, trivial⟩
      -- Only the lead byte of the surrogates is left, and its upper half is theirs.
      obtain rfl : a = 0xED := byte_exact a 0xED (by change 0xED ≤ _ ∧ _ ≤ 0xED; omega)
      have scalar : b.toNat ≤ 0x9F := by
        by_contra beyond
        by_cases half : b.toNat ≤ 0xAF
        · exact notLead ⟨b, c, rfl, by omega, half⟩
        · exact notTrail ⟨b, c, rfl, by omega, second.2⟩
      exact ⟨[(0xED, 0xED), (0x80, 0x9F), (0x80, 0xBF)], by decide, by decide,
        ⟨second.1, scalar⟩, tail, trivial⟩
  | fourLow second third tail =>
      exact ⟨[(0xF0, 0xF0), (0x90, 0xBF), (0x80, 0xBF), (0x80, 0xBF)], by decide, by decide,
        second, third, tail, trivial⟩
  | four first second third tail =>
      exact ⟨[(0xF1, 0xF3), (0x80, 0xBF), (0x80, 0xBF), (0x80, 0xBF)], by decide, first, second,
        third, tail, trivial⟩
  | fourHigh second third tail =>
      exact ⟨[(0xF4, 0xF4), (0x80, 0x8F), (0x80, 0xBF), (0x80, 0xBF)], by decide, by decide,
        second, third, tail, trivial⟩

/-- The rows list the units of the grammar without those of surrogates, and these
are the encodings of characters. -/
theorem textUnit_iff (unit : List UInt8) :
    TextUnit unit ↔ ∃ char, unit = String.utf8EncodeChar char := by
  constructor
  · intro listed
    obtain ⟨derived, notLead, notTrail⟩ := textUnit_unit unit listed
    obtain ⟨point, rfl⟩ := unit_point unit derived
    rw [leadUnit_iff, Bool.not_eq_true] at notLead
    rw [trailUnit_iff, Bool.not_eq_true] at notTrail
    have scalar : point.isSurrogate = false := by
      rw [surrogate_halves, notLead, notTrail]
      rfl
    exact ⟨point.lossyChar, by rw [← bytes_ofChar, ofChar_lossyChar point scalar]⟩
  · rintro ⟨char, rfl⟩
    have scalar := ofChar_scalar char
    rw [surrogate_halves, Bool.or_eq_false_iff] at scalar
    rw [← bytes_ofChar]
    apply unit_textUnit _ (bytes_unit _)
    · rw [leadUnit_iff, scalar.1]
      decide
    · rw [trailUnit_iff, scalar.2]
      decide

/-- The UTF-8 forms of texts are the rows of units that the table lists. -/
theorem textUnits_iff (bytes : List UInt8) :
    (∃ text, bytes = utf8 text) ↔
      ∃ units : List (List UInt8), (∀ unit ∈ units, TextUnit unit) ∧ bytes = units.flatten := by
  constructor
  · rintro ⟨text, rfl⟩
    refine ⟨text.toList.map String.utf8EncodeChar, ?_, ?_⟩
    · intro unit member
      obtain ⟨char, _, rfl⟩ := List.mem_map.mp member
      exact (textUnit_iff _).mpr ⟨char, rfl⟩
    · rw [utf8_chars, List.flatMap_def]
  · rintro ⟨units, listed, rfl⟩
    induction units with
    | nil => exact ⟨"", by simp [utf8_chars]⟩
    | cons unit rest ih =>
        obtain ⟨char, spelled⟩ := (textUnit_iff unit).mp (listed unit (by simp))
        obtain ⟨text, row⟩ := ih fun later member => listed later (List.mem_cons_of_mem _ member)
        refine ⟨.ofList (char :: text.toList), ?_⟩
        rw [List.flatten_cons, row, spelled, utf8_chars, utf8_chars, String.toList_ofList,
          List.flatMap_cons]

end Grammar

/-- Rejecting surrogates reads exactly the UTF-8 forms of texts, and reads each
as the code points of its characters. Text passes through unchanged: it has no
surrogates, its code points show it again, and writing them gives its UTF-8 form,
which every policy reads the same way. -/
theorem reject_reads_utf8 (bytes : List UInt8) (points : List CodePoint) :
    (decodeAll bytes .reject = .ok points ↔
      ∃ text, bytes = utf8 text ∧ points = ofText text) ∧
    ((∃ text, bytes = utf8 text) ↔
      ∃ units : List (List UInt8), (∀ unit ∈ units, TextUnit unit) ∧ bytes = units.flatten) ∧
    ∀ text, hasSurrogate (ofText text) = false ∧ lossyText (ofText text) = text ∧
      encode (ofText text) = utf8 text ∧
      ∀ policy, decodeAll (utf8 text) policy = .ok (ofText text) := by
  refine ⟨?_, textUnits_iff bytes, ?_⟩
  · rw [decodeAll_reject_iff]
    constructor
    · rintro ⟨row, scalar⟩
      refine ⟨lossyText points, ?_, (ofText_lossyText points scalar).symm⟩
      rw [utf8_bytes, ofText_lossyText points scalar, row]
    · rintro ⟨text, rfl, rfl⟩
      exact ⟨utf8_bytes text, ofText_scalar text⟩
  · intro text
    refine ⟨ofText_scalar text, lossyText_ofText text, ?_, ?_⟩
    · rw [encode_scalar _ (ofText_scalar text), utf8_bytes]
    · intro policy
      rw [utf8_bytes]
      exact decodeAll_admitted policy _ (admitted_scalar policy false _ (ofText_scalar text))

end Wobbly
