import Wobbly.Proofs.Commands
import Wobbly.Proofs.EscapedTexts

/-! Labels, fed back. The digits of a label spell its number, padded or not, and
hold no blank, so a row of labels falls apart at its blanks into the labels it was
made of. Each of them becomes an escape by a change of brackets, and the row of
escapes reads as the code points that were shown. -/
namespace Wobbly
open CodePoint Sequence Decoding Encoding Grammar

namespace Text.Hex

structure Spells (digits : List Char) (value : Nat) : Prop where
  nonempty : digits ≠ []
  hex : ∀ digit ∈ digits, HexDigit digit
  worth : number digits = value

theorem upperDigit_listed : ∀ half < 16, hexDigits.lookup (upperDigit half) = some half := by
  decide

theorem spells_digit (value : Nat) (small : value < 16) : Spells [upperDigit value] value where
  nonempty := List.cons_ne_nil _ _
  hex := by
    intro digit member
    obtain rfl := List.mem_singleton.mp member
    rw [HexDigit, upperDigit_listed value small]
    rfl
  worth := by
    rw [number_cons, digitWorth, upperDigit_listed value small]
    exact Nat.mul_one value

theorem number_append (digits : List Char) (digit : Char) :
    number (digits ++ [digit]) = number digits * 16 + digitWorth digit := by
  rw [number, List.map_append, List.map_singleton, List.reverse_append, List.reverse_singleton,
    List.singleton_append, Nat.ofDigits_cons, Nat.add_comm, Nat.mul_comm]
  rfl

theorem spells_append (digits : List Char) (high low : Nat) (spells : Spells digits high)
    (small : low < 16) : Spells (digits ++ [upperDigit low]) (high * 16 + low) where
  nonempty := List.append_ne_nil_of_left_ne_nil spells.nonempty _
  hex := by
    intro digit member
    rcases List.mem_append.mp member with before | last
    · exact spells.hex digit before
    · exact (spells_digit low small).hex digit last
  worth := by
    rw [number_append, spells.worth, digitWorth, upperDigit_listed low small]
    rfl

theorem spells_padded (count : Nat) (digits : List Char) (value : Nat)
    (spells : Spells digits value) : Spells (List.replicate count '0' ++ digits) value := by
  induction count with
  | zero => exact spells
  | succ count ih =>
      rw [List.replicate_succ, List.cons_append]
      refine ⟨List.cons_ne_nil _ _, List.forall_mem_cons.mpr ⟨by decide, ih.hex⟩, ?_⟩
      have nothing : digitWorth '0' = 0 := by decide
      rw [number_cons, nothing, Nat.zero_mul, Nat.zero_add, ih.worth]

theorem spells_numeral (value : Nat) : Spells (numeral value) value := by
  induction value using Nat.strongRecOn with
  | ind value ih =>
      unfold numeral
      by_cases small : value < 16
      · rw [Nat.toDigits_of_lt_base small]
        exact spells_digit value small
      · -- All digits but the last are the numeral of the sixteenth part.
        have before := ih (value / 16) (by omega)
        have whole := spells_append _ _ _ before (Nat.mod_lt value (by decide))
        rw [Nat.div_add_mod'] at whole
        rw [Nat.toDigits_of_base_le (by decide) (Nat.le_of_not_lt small), List.map_append]
        exact whole

theorem spells_paddedNumeral (width value : Nat) : Spells (paddedNumeral width value) value :=
  spells_padded _ _ _ (spells_numeral value)

end Text.Hex

namespace Text.Escape

def ofLabel : List Char → List Char
  | 'U' :: '+' :: digits => opener ++ digits ++ [closer]
  | word => word

def ofLabels (shown : List Char) : List Char := (shown.splitOn ' ').flatMap ofLabel

def labelSpelling (point : CodePoint) : Spelling where
  digits := Hex.paddedNumeral 4 point.value
  nonempty := (Hex.spells_paddedNumeral 4 point.value).nonempty
  hex := (Hex.spells_paddedNumeral 4 point.value).hex
  bounded := by
    rw [(Hex.spells_paddedNumeral 4 point.value).worth]
    exact point.bounded

theorem labelSpelling_point (point : CodePoint) : (labelSpelling point).point = point :=
  CodePoint.ext (Hex.spells_paddedNumeral 4 point.value).worth

def spell (point : CodePoint) : List Char :=
  opener ++ Hex.paddedNumeral 4 point.value ++ [closer]

def spelledOut : List CodePoint → Escaped
  | [] => .plain ⟨[], by decide⟩
  | point :: rest => .escape ⟨[], by decide⟩ (labelSpelling point) (spelledOut rest)

theorem spelledOut_points (points : List CodePoint) : (spelledOut points).points = points := by
  induction points with
  | nil => rfl
  | cons point rest ih =>
      change (labelSpelling point).point :: (spelledOut rest).points = _
      rw [ih, labelSpelling_point]

theorem spelledOut_chars (points : List CodePoint) :
    (spelledOut points).chars = points.flatMap spell := by
  induction points with
  | nil => rfl
  | cons point rest ih =>
      rw [List.flatMap_cons, ← ih]
      simp [spelledOut, Escaped.chars, labelSpelling, Spelling.body, spell]

theorem spell_reads (points : List CodePoint) :
    read (.ofList (points.flatMap spell)) = .ok points := by
  rw [read, String.toList_ofList, ← spelledOut_chars, whole_reads, spelledOut_points]

theorem label_solid (point : CodePoint) : ' ' ∉ point.label := by
  intro member
  simp only [label, List.mem_cons] at member
  rcases member with mark | mark | digit
  · exact absurd mark (by decide)
  · exact absurd mark (by decide)
  · exact absurd ((Hex.spells_paddedNumeral 4 point.value).hex _ digit) (by decide)

theorem labelled_words (points : List CodePoint) :
    labelled points = [' '].intercalate (points.map label) := by
  fun_induction labelled points with
  | case1 => rfl
  | case2 last => simp
  | case3 first rest more ih =>
      rw [ih, List.map_cons, List.intercalate_cons_of_ne_nil]
      · simp
      · simpa using more

theorem ofLabels_labelled (points : List CodePoint) :
    ofLabels (labelled points) = points.flatMap spell := by
  cases points with
  | nil => rfl
  | cons first rest =>
      have solid : ∀ word ∈ (first :: rest).map label, ' ' ∉ word := by
        intro word member
        obtain ⟨point, _, rfl⟩ := List.mem_map.mp member
        exact label_solid point
      rw [ofLabels, labelled_words, List.splitOn_intercalate ' ' solid (by simp), List.flatMap_map]
      rfl

theorem labels_read (points : List CodePoint) :
    read (.ofList (ofLabels (labelled points))) = .ok points := by
  rw [ofLabels_labelled, spell_reads]

theorem labelled_injective : Function.Injective labelled := by
  intro first second same
  have read := labels_read first
  rw [same, labels_read second] at read
  exact (Except.ok.inj read).symm

end Text.Escape

namespace Command
variable {text : String} {policy : Policy} {points : List CodePoint} {bytes : List UInt8}

theorem encode_done (terminal : Nat) (read : Text.Escape.read text = .ok points)
    (written : encodeUnder policy points = .ok bytes) :
    (run terminal (.encode text policy)).result = .ok (Text.HexText.write bytes) := by
  change encodeText text policy = _
  simp only [encodeText, read, written]

/-- A row of labels shows a sequence without loss: its labels, turned into escapes,
read as the sequence, and no other sequence is shown alike. Encoding these escapes
for bytes that were accepted prints the hex digits of the bytes. -/
theorem labels_feed_back :
    (∀ points, Text.Escape.read (.ofList (Text.Escape.ofLabels (labelled points))) =
      .ok points) ∧
    (∀ first second, String.ofList (labelled first) = String.ofList (labelled second) →
      first = second) ∧
    ∀ terminal bytes points, decodeAll bytes .accept = .ok points →
      (run terminal (.encode (.ofList (Text.Escape.ofLabels (labelled points))) .accept)).result =
        .ok (Text.HexText.write bytes) := by
  refine ⟨Text.Escape.labels_read, ?_, ?_⟩
  · intro first second same
    exact Text.Escape.labelled_injective (String.ofList_injective same)
  · intro terminal bytes points accepted
    -- Accepted code points hold no split pair, so encoding them joins nothing.
    obtain ⟨row, free⟩ := (decodeAll_accept_iff bytes points).mp accepted
    have written : encodeUnder .accept points = .ok bytes := by
      rw [encodeUnder_accept, encode_of_pairFree points free, ← row]
    exact encode_done terminal (Text.Escape.labels_read points) written

-- A lone lead before a supplementary character.
theorem labels_feed_back_lone_lead :
    decodeAll [0xED, 0xA0, 0x80, 0xF0, 0x9F, 0x98, 0x80] .accept =
        .ok [⟨0xD800, by decide⟩, ⟨0x1F600, by decide⟩] ∧
      String.ofList (labelled [⟨0xD800, by decide⟩, ⟨0x1F600, by decide⟩]) = "U+D800 U+1F600" ∧
      (run 80 (.encode "\\u\x7bD800\x7d\\u\x7b1F600\x7d" .accept)).result =
        .ok "eda080f09f9880" := by
  have accepted : decodeAll [0xED, 0xA0, 0x80, 0xF0, 0x9F, 0x98, 0x80] .accept =
      .ok [⟨0xD800, by decide⟩, ⟨0x1F600, by decide⟩] := by cbv
  have escapes : String.ofList (Text.Escape.ofLabels
      (labelled [⟨0xD800, by decide⟩, ⟨0x1F600, by decide⟩])) =
        "\\u\x7bD800\x7d\\u\x7b1F600\x7d" := by cbv
  have digits : Text.HexText.write [0xED, 0xA0, 0x80, 0xF0, 0x9F, 0x98, 0x80] =
      "eda080f09f9880" := by cbv
  have printed := labels_feed_back.2.2 80 _ _ accepted
  rw [escapes, digits] at printed
  exact ⟨accepted, by cbv, printed⟩

end Command
end Wobbly
