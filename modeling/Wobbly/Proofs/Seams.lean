import Wobbly.Proofs.Policies
import Wobbly.Proofs.Spans

/-! Where two texts are put together. Grouping never takes a lead as the second
half of anything, so what it does to the first part does not depend on the second,
and only a lead that meets a trail at the seam is treated otherwise. Reading bytes
strictly is the same story from the other side: of everything that was read, only
one flag crosses the seam, and only a trail right behind it asks for the flag. -/
namespace Wobbly
open CodePoint Reading Sequence Decoding Encoding

namespace CodePoint

theorem supplementary_width (point : CodePoint) (large : 0x10000 ≤ point.value) :
    point.width = 4 := by
  have bounded := point.bounded
  apply width_of_form point .four large
  change point.value / 0x40 ^ 3 < 0x08
  omega

end CodePoint

namespace Sequence

def EndsInLead (points : List CodePoint) : Prop :=
  ∃ last ∈ points.getLast?, last.isLead = true

def StartsWithTrail (points : List CodePoint) : Prop :=
  ∃ first ∈ points.head?, first.isTrail = true

instance (points : List CodePoint) : Decidable (EndsInLead points) :=
  inferInstanceAs (Decidable (∃ last ∈ points.getLast?, last.isLead = true))

instance (points : List CodePoint) : Decidable (StartsWithTrail points) :=
  inferInstanceAs (Decidable (∃ first ∈ points.head?, first.isTrail = true))

theorem lead_starts_no_trail (lead : CodePoint) (rest : List CodePoint)
    (isLead : lead.isLead = true) : ¬StartsWithTrail (lead :: rest) := by
  rintro ⟨first, isFirst, trail⟩
  cases isFirst
  rw [lead_not_trail lead isLead] at trail
  cases trail

theorem endsInLead_later (point : CodePoint) (rest : List CodePoint) (ends : EndsInLead rest) :
    EndsInLead (point :: rest) := by
  obtain ⟨last, isLast, lead⟩ := ends
  refine ⟨last, ?_, lead⟩
  rw [List.getLast?_cons, Option.mem_def.mp isLast]
  rfl

theorem grouped_append (first second : List CodePoint)
    (apart : ¬(EndsInLead first ∧ StartsWithTrail second)) :
    grouped (first ++ second) = grouped first ++ grouped second := by
  induction first using grouping_induction with
  | done => rfl
  | pair lead trail whole rest joined ih =>
      have later : ¬(EndsInLead rest ∧ StartsWithTrail second) := by
        rintro ⟨ends, starts⟩
        exact apart ⟨endsInLead_later lead _ (endsInLead_later trail rest ends), starts⟩
      rw [List.cons_append, List.cons_append, grouped_pair lead trail whole _ joined,
        grouped_pair lead trail whole _ joined, ih later, List.cons_append]
  | single point rest alone ih =>
      have later : ¬(EndsInLead rest ∧ StartsWithTrail second) := by
        rintro ⟨ends, starts⟩
        exact apart ⟨endsInLead_later point rest ends, starts⟩
      -- Without a rest, the next member is the first one behind the seam.
      have still : ∀ next ∈ (rest ++ second).head?, ¬Paired point next := by
        cases rest with
        | nil =>
            rintro next isNext ⟨lead, trail⟩
            exact apart ⟨⟨point, rfl, lead⟩, next, isNext, trail⟩
        | cons next rest => exact alone
      rw [List.cons_append, grouped_single point _ still, grouped_single point rest alone,
        ih later, List.cons_append]

theorem grouped_lead_last (before : List CodePoint) (lead : CodePoint)
    (isLead : lead.isLead = true) : grouped (before ++ [lead]) = grouped before ++ [lead] := by
  apply grouped_append
  rintro ⟨_, starts⟩
  exact lead_starts_no_trail lead [] isLead starts

theorem grouped_trail_first (trail : CodePoint) (after : List CodePoint)
    (isTrail : trail.isTrail = true) : grouped (trail :: after) = trail :: grouped after := by
  apply grouped_single
  rintro next _ ⟨lead, _⟩
  rw [lead_not_trail trail lead] at isTrail
  cases isTrail

theorem grouped_seam (before after : List CodePoint) (lead trail whole : CodePoint)
    (joined : lead.combine? trail = some whole) :
    grouped (before ++ lead :: trail :: after) = grouped before ++ whole :: grouped after := by
  have isLead := ((combine_some_iff lead trail whole).mp joined).1.1
  have apart : ¬(EndsInLead before ∧ StartsWithTrail (lead :: trail :: after)) := by
    rintro ⟨_, starts⟩
    exact lead_starts_no_trail lead _ isLead starts
  rw [grouped_append before _ apart, grouped_pair lead trail whole after joined]

end Sequence

theorem encode_append (first second : List CodePoint)
    (apart : ¬(EndsInLead first ∧ StartsWithTrail second)) :
    encode (first ++ second) = encode first ++ encode second := by
  rw [encode, grouped_append first second apart, List.flatMap_append]
  rfl

theorem encodedLength_seam (first second : List CodePoint) (ends : EndsInLead first)
    (starts : StartsWithTrail second) :
    encodedLength (first ++ second) + 2 = encodedLength first + encodedLength second := by
  obtain ⟨lead, isLast, isLead⟩ := ends
  obtain ⟨trail, isFirst, isTrail⟩ := starts
  obtain ⟨before, rfl⟩ := List.getLast?_eq_some_iff.mp isLast
  obtain ⟨after, rfl⟩ := List.head?_eq_some_iff.mp isFirst
  cases joined : lead.combine? trail with
  | none => exact absurd ⟨isLead, isTrail⟩ ((combine_none_iff lead trail).mp joined)
  | some whole =>
      have leadWidth := surrogate_width lead (by rw [surrogate_halves, isLead]; rfl)
      have trailWidth := surrogate_width trail (trail_surrogate trail isTrail)
      have wholeWidth := supplementary_width whole (combine_supplementary lead trail whole joined)
      rw [List.append_assoc, List.singleton_append]
      simp only [encodedLength_exact, encode, grouped_seam before after lead trail whole joined,
        grouped_lead_last before lead isLead, grouped_trail_first trail after isTrail,
        List.flatMap_append, List.flatMap_cons, List.flatMap_nil, List.length_append,
        List.length_nil, bytes_length, leadWidth, trailWidth, wholeWidth]
      omega

/-- Two sequences may be encoded one after the other exactly if no pair is split
between them. A split pair takes four bytes when it is whole and six in halves. -/
theorem encode_append_unless_pair_split (first second : List CodePoint) :
    (encode (first ++ second) = encode first ++ encode second ↔
      ¬(EndsInLead first ∧ StartsWithTrail second)) ∧
    (EndsInLead first ∧ StartsWithTrail second →
      encodedLength (first ++ second) + 2 = encodedLength first + encodedLength second) := by
  refine ⟨⟨?_, encode_append first second⟩, ?_⟩
  · rintro same ⟨ends, starts⟩
    have shorter := encodedLength_seam first second ends starts
    rw [encodedLength_exact, encodedLength_exact, encodedLength_exact, same,
      List.length_append] at shorter
    omega
  · rintro ⟨ends, starts⟩
    exact encodedLength_seam first second ends starts

-- A whole pair, then a lead at the seam; behind it two trails, of which one is taken.
theorem encode_append_unless_pair_split_among_surrogates :
    (EndsInLead [⟨0xD800, by decide⟩, ⟨0xDC00, by decide⟩, ⟨0xDBFF, by decide⟩] ∧
      StartsWithTrail [⟨0xDFFF, by decide⟩, ⟨0xDC00, by decide⟩]) ∧
      encode ([⟨0xD800, by decide⟩, ⟨0xDC00, by decide⟩, ⟨0xDBFF, by decide⟩] ++
        [⟨0xDFFF, by decide⟩, ⟨0xDC00, by decide⟩]) =
      [0xF0, 0x90, 0x80, 0x80, 0xF4, 0x8F, 0xBF, 0xBF, 0xED, 0xB0, 0x80] ∧
      encode [⟨0xD800, by decide⟩, ⟨0xDC00, by decide⟩, ⟨0xDBFF, by decide⟩] ++
        encode [⟨0xDFFF, by decide⟩, ⟨0xDC00, by decide⟩] =
      [0xF0, 0x90, 0x80, 0x80, 0xED, 0xAF, 0xBF, 0xED, 0xBF, 0xBF, 0xED, 0xB0, 0x80] ∧
      encode ([⟨0xD800, by decide⟩, ⟨0xDC00, by decide⟩, ⟨0xDBFF, by decide⟩] ++
        [⟨0xDFFF, by decide⟩, ⟨0xDC00, by decide⟩]) ≠
      encode [⟨0xD800, by decide⟩, ⟨0xDC00, by decide⟩, ⟨0xDBFF, by decide⟩] ++
        encode [⟨0xDFFF, by decide⟩, ⟨0xDC00, by decide⟩] ∧
      encodedLength ([⟨0xD800, by decide⟩, ⟨0xDC00, by decide⟩, ⟨0xDBFF, by decide⟩] ++
        [⟨0xDFFF, by decide⟩, ⟨0xDC00, by decide⟩]) + 2 =
      encodedLength [⟨0xD800, by decide⟩, ⟨0xDC00, by decide⟩, ⟨0xDBFF, by decide⟩] +
        encodedLength [⟨0xDFFF, by decide⟩, ⟨0xDC00, by decide⟩] := by
  have split : EndsInLead [⟨0xD800, by decide⟩, ⟨0xDC00, by decide⟩, ⟨0xDBFF, by decide⟩] ∧
      StartsWithTrail [⟨0xDFFF, by decide⟩, ⟨0xDC00, by decide⟩] := by decide
  obtain ⟨exactly, shorter⟩ := encode_append_unless_pair_split
    [⟨0xD800, by decide⟩, ⟨0xDC00, by decide⟩, ⟨0xDBFF, by decide⟩]
    [⟨0xDFFF, by decide⟩, ⟨0xDC00, by decide⟩]
  exact ⟨split, by cbv, by cbv, fun same => exactly.mp same split, shorter split⟩

namespace Reading
variable {policy : Policy} {offset : Nat} {afterLead : Bool} {window : List UInt8}
  {pieces : List Piece} {stopped : Option Nat}

theorem leadAfter_last (afterLead : Bool) (points : List CodePoint) :
    leadAfter afterLead points = (points.getLast?.map isLead).getD afterLead := by
  induction points generalizing afterLead with
  | nil => rfl
  | cons point rest ih =>
      rw [leadAfter, ih, List.getLast?_cons]
      cases rest.getLast? <;> rfl

theorem leadAfter_iff (points : List CodePoint) :
    leadAfter false points = true ↔ EndsInLead points := by
  rw [leadAfter_last, EndsInLead]
  cases points.getLast? <;> simp

def TrailInFront (window : List UInt8) : Prop :=
  ∃ found ∈ Scan.at? window 0, found.point.isTrail = true

instance (window : List UInt8) : Decidable (TrailInFront window) :=
  inferInstanceAs (Decidable (∃ found ∈ Scan.at? window 0, found.point.isTrail = true))

theorem trailInFront_iff (window : List UInt8) :
    TrailInFront window ↔ ∃ trail rest, window = CodePoint.bytes trail ++ rest ∧
      trail.isTrail = true := by
  constructor
  · rintro ⟨found, read, trail⟩
    exact ⟨found.point, _, (Scan.front_exact window found read).2, trail⟩
  · rintro ⟨trail, rest, rfl, isTrail⟩
    exact ⟨_, Scan.front_bytes trail rest, isTrail⟩

theorem welcome_afterLead (policy : Policy) (afterLead : Bool) (point : CodePoint)
    (free : policy = .accept → afterLead = true → point.isTrail = false) :
    welcome policy afterLead point = welcome policy false point := by
  cases policy with
  | accept =>
      cases afterLead with
      | false => rfl
      | true => simp [welcome, free rfl rfl]
  | reject => rfl
  | replace => rfl

/-- A run asks for the flag only at a trail in front. -/
theorem run_afterLead (run : Run policy offset false window pieces stopped)
    (free : policy = .accept → afterLead = true → ¬TrailInFront window) :
    Run policy offset afterLead window pieces stopped := by
  have same : ∀ point : CodePoint, point.bytes <+: window →
      welcome policy afterLead point = welcome policy false point := by
    rintro point ⟨rest, row⟩
    apply welcome_afterLead
    intro accepting flagged
    rw [← Bool.not_eq_true]
    intro trail
    exact free accepting flagged ((trailInFront_iff window).mpr ⟨point, rest, row.symm, trail⟩)
  cases run with
  | done => exact Run.done
  | keep point kept later =>
      rw [← same point (List.prefix_append _ _)] at kept
      exact Run.keep point kept later
  | replace replacing unreadable later =>
      refine Run.replace replacing ?_ later
      intro point front
      rw [same point front]
      exact unreadable point front
  | stop strict unreadable =>
      refine Run.stop strict ?_
      intro point front
      rw [same point front]
      exact unreadable point front

end Reading

namespace Decoding

theorem decodeAll_append (policy : Policy) (points : List CodePoint) (rest : List UInt8)
    (admitted : Admitted policy false points)
    (apart : ¬(policy = .accept ∧ EndsInLead points ∧ TrailInFront rest)) :
    decodeAll (points.flatMap CodePoint.bytes ++ rest) policy =
      ((decodeAll rest policy).map (points ++ ·)).mapError
        (DecodeError.moved (points.flatMap CodePoint.bytes).length) := by
  obtain ⟨pieces, stopped, run⟩ := run_exists policy 0 false rest
  have later := run_afterLead (run_moved (points.flatMap CodePoint.bytes).length run)
    fun accepting flagged trail => apart ⟨accepting, (leadAfter_iff points).mp flagged, trail⟩
  obtain ⟨front, whole, kept⟩ := run_append points rest admitted later
  rw [decodeAll_window, decodeAll_window, decodeWindow_result run, decodeWindow_result whole,
    List.map_append, kept, points_moved, outcome_moved, outcome_map]

theorem decodeAll_seam (points : List CodePoint) (rest : List UInt8)
    (admitted : Admitted .accept false points) (ends : EndsInLead points)
    (trails : TrailInFront rest) :
    decodeAll (points.flatMap CodePoint.bytes ++ rest) .accept =
      .error (.invalidWtf8 (points.flatMap CodePoint.bytes).length) := by
  obtain ⟨trail, behind, rfl, isTrail⟩ := (trailInFront_iff rest).mp trails
  have flagged := (leadAfter_iff points).mpr ends
  have stop : Run .accept (0 + (points.flatMap CodePoint.bytes).length) (leadAfter false points)
      (trail.bytes ++ behind) [] (some (0 + (points.flatMap CodePoint.bytes).length)) := by
    apply run_unwelcome trail behind (by decide)
    rw [← Bool.not_eq_true, welcome_accept_iff]
    exact not_not_intro ⟨flagged, isTrail⟩
  obtain ⟨front, run, _⟩ := run_append points _ admitted stop
  rw [decodeAll_window, decodeWindow_result run, Nat.zero_add]
  rfl

/-- Behind bytes that were read strictly, further bytes are read as on their own
and blamed at their place in the whole. The one exception is a trail that meets a
lead: it is blamed itself, although both parts may be readable. -/
theorem strict_reading_composes (front rest : List UInt8) (policy : Policy)
    (points : List CodePoint) (strict : policy ≠ .replace)
    (read : decodeAll front policy = .ok points) :
    (policy = .accept ∧ EndsInLead points ∧ TrailInFront rest →
      decodeAll (front ++ rest) policy = .error (.invalidWtf8 front.length)) ∧
    (¬(policy = .accept ∧ EndsInLead points ∧ TrailInFront rest) →
      decodeAll (front ++ rest) policy =
        match decodeAll rest policy with
        | .ok more => .ok (points ++ more)
        | .error error => .error (error.moved front.length)) := by
  rw [decodeAll_window, strict_ok_iff strict] at read
  obtain ⟨rfl, admitted⟩ := read
  constructor
  · rintro ⟨rfl, ends, trails⟩
    exact decodeAll_seam points rest admitted ends trails
  · intro apart
    rw [decodeAll_append policy points rest admitted apart]
    cases decodeAll rest policy <;> rfl

-- Behind a lone lead: its other half, a whole pair, and a byte that starts nothing.
theorem strict_reading_composes_lone_lead :
    decodeAll [0xED, 0xA0, 0x80] .accept = .ok [⟨0xD800, by decide⟩] ∧
      decodeAll ([0xED, 0xA0, 0x80] ++ [0xED, 0xB0, 0x80]) .accept = .error (.invalidWtf8 3) ∧
      decodeAll ([0xED, 0xA0, 0x80] ++ [0xF0, 0x90, 0x80, 0x80]) .accept =
        .ok [⟨0xD800, by decide⟩, ⟨0x10000, by decide⟩] ∧
      decodeAll ([0xED, 0xA0, 0x80] ++ [0x61, 0xFF]) .accept = .error (.invalidWtf8 4) := by
  have read : decodeAll [0xED, 0xA0, 0x80] .accept = .ok [⟨0xD800, by decide⟩] := by cbv
  have whole : decodeAll [0xF0, 0x90, 0x80, 0x80] .accept = .ok [⟨0x10000, by decide⟩] := by cbv
  have failed : decodeAll [0x61, 0xFF] .accept = .error (.invalidWtf8 1) := by cbv
  refine ⟨read, ?_, ?_, ?_⟩
  · exact (strict_reading_composes _ _ _ _ (by decide) read).1 (by decide)
  · rw [(strict_reading_composes _ _ _ _ (by decide) read).2 (by decide), whole]
    rfl
  · rw [(strict_reading_composes _ _ _ _ (by decide) read).2 (by decide), failed]
    rfl

end Decoding
end Wobbly
