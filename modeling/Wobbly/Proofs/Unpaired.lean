import Wobbly.Proofs.Groups
import Wobbly.Proofs.Mending
import Wobbly.Proofs.Seams

/-! Halves without a partner. A half is unpaired if the member it would belong
with is not right beside it, and these are exactly the halves that grouping leaves
over. So rejecting names the first of them by its place in the given sequence,
however many pairs stand before it, and replacing writes the text that shows the
sequence. -/
namespace Wobbly
open CodePoint Sequence Decoding Encoding

namespace CodePoint

def substitute (point : CodePoint) : CodePoint :=
  if point.isSurrogate then replacement else point

theorem substitute_scalar (point : CodePoint) : point.substitute.isSurrogate = false := by
  unfold substitute
  split
  · decide
  · next scalar => exact Bool.eq_false_of_not_eq_true scalar

theorem ofChar_lossyChar_substitute (point : CodePoint) :
    ofChar point.lossyChar = point.substitute := by
  unfold substitute
  split
  · next surrogate =>
    rw [lossyChar, char?, surrogate]
    rfl
  · next scalar => exact ofChar_lossyChar point (Bool.eq_false_of_not_eq_true scalar)

end CodePoint

namespace Sequence

def Unpaired (points : List CodePoint) (position : Nat) : Prop :=
  ∃ point ∈ points[position]?,
    (point.isLead = true ∧ ¬StartsWithTrail (points.drop (position + 1))) ∨
      (point.isTrail = true ∧ ¬EndsInLead (points.take position))

instance (points : List CodePoint) (position : Nat) : Decidable (Unpaired points position) :=
  inferInstanceAs (Decidable (∃ point ∈ points[position]?, _))

def strays (groups : List (Nat × CodePoint)) : List Nat :=
  (groups.filter fun group => group.2.isSurrogate).map Prod.fst

def substituted (points : List CodePoint) : List CodePoint := points.map CodePoint.substitute

theorem startsWithTrail_cons (first : CodePoint) (rest : List CodePoint) :
    StartsWithTrail (first :: rest) ↔ first.isTrail = true := by
  simp [StartsWithTrail]

theorem endsInLead_cons (first : CodePoint) (rest : List CodePoint) :
    EndsInLead (first :: rest) ↔ if rest = [] then first.isLead = true else EndsInLead rest := by
  cases rest with
  | nil => simp [EndsInLead]
  | cons second rest => simp [EndsInLead, List.getLast?_cons_cons]

theorem unpaired_first (first : CodePoint) (rest : List CodePoint) :
    Unpaired (first :: rest) 0 ↔
      first.isLead = true ∧ ¬StartsWithTrail rest ∨ first.isTrail = true := by
  have nothing : ¬EndsInLead ([] : List CodePoint) := by decide
  simp [Unpaired, nothing]

/-- Another member in front matters only to the one right behind it, and to that
one only if they are a pair. -/
theorem unpaired_behind (first : CodePoint) (rest : List CodePoint) (position : Nat)
    (apart : position = 0 → ∀ second ∈ rest.head?, ¬Paired first second) :
    Unpaired (first :: rest) (position + 1) ↔ Unpaired rest position := by
  have before : ∀ point ∈ rest[position]?, point.isTrail = true →
      (EndsInLead (first :: rest.take position) ↔ EndsInLead (rest.take position)) := by
    intro point isPoint trail
    rw [endsInLead_cons]
    split
    · next front =>
      -- Nothing stands between the two, so a lead in front would make a pair.
      have nothing : ¬EndsInLead ([] : List CodePoint) := by decide
      have start : position = 0 := by
        have inside := (List.getElem?_eq_some_iff.mp isPoint).1
        have short := congrArg List.length front
        rw [List.length_take, List.length_nil] at short
        omega
      subst start
      rw [← List.head?_eq_getElem?] at isPoint
      rw [front]
      exact iff_of_false (fun lead => apart rfl point isPoint ⟨lead, trail⟩) nothing
    · rfl
  simp only [Unpaired, List.getElem?_cons_succ, List.drop_succ_cons, List.take_succ_cons]
  apply exists_congr
  intro point
  apply and_congr_right
  intro isPoint
  apply or_congr_right'
  intro _
  exact and_congr_right fun trail => not_congr (before point isPoint trail)

/-- No half of a pair is unpaired, and the pair leaves what follows as it was. -/
theorem unpaired_pair (lead trail : CodePoint) (rest : List CodePoint)
    (paired : Paired lead trail) (position : Nat) :
    Unpaired (lead :: trail :: rest) position ↔
      ∃ earlier, Unpaired rest earlier ∧ earlier + 2 = position := by
  obtain ⟨isLead, isTrail⟩ := paired
  have notTrail := lead_not_trail lead isLead
  have notLead := trail_not_lead trail isTrail
  rcases position with _ | _ | position
  · rw [unpaired_first, startsWithTrail_cons]
    simp [notTrail, isTrail]
  · have led : EndsInLead [lead] := ⟨lead, rfl, isLead⟩
    simp [Unpaired, notLead, led]
  · rw [unpaired_behind lead _ (position + 1) nofun, unpaired_behind trail rest position]
    · simp
    · rintro _ second _ ⟨both, _⟩
      rw [notLead] at both
      cases both

/-- A member that the next one does not complete is unpaired if it is a half. -/
theorem unpaired_single (first : CodePoint) (rest : List CodePoint)
    (alone : ∀ second ∈ rest.head?, ¬Paired first second) (position : Nat) :
    Unpaired (first :: rest) position ↔ first.isSurrogate = true ∧ position = 0 ∨
      ∃ earlier, Unpaired rest earlier ∧ earlier + 1 = position := by
  cases position with
  | zero =>
      have free : first.isLead = true → ¬StartsWithTrail rest := by
        rintro lead ⟨second, isSecond, trail⟩
        exact alone second isSecond ⟨lead, trail⟩
      rw [unpaired_first, and_iff_left_of_imp free, ← Bool.or_eq_true, ← surrogate_halves]
      simp
  | succ position =>
      rw [unpaired_behind first rest position fun _ => alone]
      simp

theorem strays_moved (distance : Nat) (groups : List (Nat × CodePoint)) :
    strays (groups.map (movedGroup distance)) = (strays groups).map (· + distance) := by
  rw [strays, strays, List.filter_map, List.map_map, List.map_map]
  rfl

theorem strays_pair (first second whole : CodePoint) (rest : List CodePoint)
    (joined : first.combine? second = some whole) :
    strays (groups (first :: second :: rest)) = (strays (groups rest)).map (· + 2) := by
  have scalar := supplementary_scalar whole (combine_supplementary first second whole joined)
  rw [groups_pair first second whole rest joined, ← strays_moved, strays, List.filter_cons]
  simp only [scalar]
  rfl

theorem strays_single (first : CodePoint) (rest : List CodePoint)
    (alone : ∀ second ∈ rest.head?, ¬Paired first second) :
    strays (groups (first :: rest)) =
      (if first.isSurrogate then [0] else []) ++ (strays (groups rest)).map (· + 1) := by
  rw [groups_single first rest alone, ← strays_moved, strays, List.filter_cons]
  cases first.isSurrogate <;> rfl

/-- What grouping leaves over is what has no partner beside it. -/
theorem strays_unpaired (points : List CodePoint) (position : Nat) :
    position ∈ strays (groups points) ↔ Unpaired points position := by
  induction points using grouping_induction generalizing position with
  | done => simp [strays, groups, groupsFrom, Unpaired]
  | pair lead trail whole rest joined ih =>
      have paired := ((combine_some_iff lead trail whole).mp joined).1
      rw [strays_pair lead trail whole rest joined, unpaired_pair lead trail rest paired,
        List.mem_map]
      simp only [ih]
  | single first rest alone ih =>
      rw [strays_single first rest alone, unpaired_single first rest alone, List.mem_append,
        List.mem_map]
      simp only [ih]
      cases first.isSurrogate <;> simp

theorem strays_increasing (points : List CodePoint) :
    (strays (groups points)).Pairwise (· < ·) :=
  (starts_increasing points).sublist (List.filter_sublist.map Prod.fst)

theorem strays_nil_iff (groups : List (Nat × CodePoint)) :
    strays groups = [] ↔ hasSurrogate (groups.map Prod.snd) = false := by
  simp [strays, hasSurrogate]

theorem least_iff_head (positions : List Nat) (increasing : positions.Pairwise (· < ·))
    (position : Nat) :
    positions.head? = some position ↔ IsLeast {other | other ∈ positions} position := by
  constructor
  · intro head
    obtain ⟨later, rfl⟩ := List.head?_eq_some_iff.mp head
    refine ⟨List.mem_cons_self, ?_⟩
    intro other member
    rcases List.mem_cons.mp member with rfl | behind
    · exact Nat.le_refl other
    · exact Nat.le_of_lt (List.rel_of_pairwise_cons increasing behind)
  · rintro ⟨member, least⟩
    cases positions with
    | nil => cases member
    | cons first later =>
        rcases List.mem_cons.mp member with rfl | behind
        · rfl
        · have before := List.rel_of_pairwise_cons increasing behind
          have below := least List.mem_cons_self
          omega

theorem substituted_scalar (points : List CodePoint) :
    hasSurrogate (substituted points) = false := by
  simp [hasSurrogate, substituted, substitute_scalar]

theorem ofText_lossyText_substituted (points : List CodePoint) :
    ofText (lossyText points) = substituted points := by
  rw [ofText, lossyText, String.toList_ofList, List.map_map]
  exact List.map_congr_left fun point _ => ofChar_lossyChar_substitute point

end Sequence

namespace Encoding

theorem letThrough_accept (position : Nat) (point : CodePoint) :
    letThrough .accept position point = .ok point := ite_self _

theorem letThrough_replace (position : Nat) (point : CodePoint) :
    letThrough .replace position point = .ok point.substitute :=
  (apply_ite Except.ok _ replacement point).symm

theorem encodeGroups_accept (groups : List (Nat × CodePoint)) :
    encodeGroups .accept groups = .ok ((groups.map Prod.snd).flatMap CodePoint.bytes) := by
  induction groups with
  | nil => rfl
  | cons group rest ih =>
      rw [encodeGroups, letThrough_accept, ih]
      rfl

theorem encodeGroups_replace (groups : List (Nat × CodePoint)) :
    encodeGroups .replace groups =
      .ok ((substituted (groups.map Prod.snd)).flatMap CodePoint.bytes) := by
  induction groups with
  | nil => rfl
  | cons group rest ih =>
      rw [encodeGroups, letThrough_replace, ih]
      rfl

/-- Rejecting fails at the first group that is a surrogate. -/
theorem encodeGroups_reject (groups : List (Nat × CodePoint)) :
    encodeGroups .reject groups =
      match (strays groups).head? with
      | some position => .error (.unpairedSurrogate position)
      | none => .ok ((groups.map Prod.snd).flatMap CodePoint.bytes) := by
  induction groups with
  | nil => rfl
  | cons group rest ih =>
      rw [encodeGroups, ih]
      cases surrogate : group.2.isSurrogate with
      | true => simp [letThrough, surrogate, strays]
      | false =>
          have later : strays (group :: rest) = strays rest := by
            simp [strays, surrogate]
          rw [letThrough, surrogate, later]
          cases (strays rest).head? <;> rfl

end Encoding

theorem encodeUnder_accept (points : List CodePoint) :
    encodeUnder .accept points = .ok (encode points) := encodeGroups_accept (groups points)

theorem encodeUnder_replace (points : List CodePoint) :
    encodeUnder .replace points = .ok (encode (substituted (Units.normalize points))) := by
  rw [encodeUnder, encodeGroups_replace, ← grouped, Units.grouped_normalize,
    encode_scalar _ (substituted_scalar _)]

/-- Rejecting blames the first half without a partner, and nothing else. -/
theorem encodeUnder_reject_error_iff (points : List CodePoint) (position : Nat) :
    encodeUnder .reject points = .error (.unpairedSurrogate position) ↔
      IsLeast {other | Unpaired points other} position := by
  have left : {other | Unpaired points other} = {other | other ∈ strays (groups points)} :=
    Set.ext fun other => (strays_unpaired points other).symm
  rw [left, ← least_iff_head _ (strays_increasing points), encodeUnder, encodeGroups_reject]
  cases (strays (groups points)).head? <;> simp

theorem encodeUnder_reject_ok (points : List CodePoint)
    (scalar : hasSurrogate (Units.normalize points) = false) :
    encodeUnder .reject points = .ok (encode points) := by
  rw [← Units.grouped_normalize, grouped, ← strays_nil_iff] at scalar
  rw [encodeUnder, encodeGroups_reject, scalar]
  rfl

theorem encodeUnder_reject_fails_iff (points : List CodePoint) :
    (∃ error, encodeUnder .reject points = .error error) ↔
      hasSurrogate (Units.normalize points) = true := by
  constructor
  · rintro ⟨error, failed⟩
    by_contra scalar
    rw [encodeUnder_reject_ok points (Bool.eq_false_of_not_eq_true scalar)] at failed
    cases failed
  · intro found
    rw [encodeUnder, encodeGroups_reject]
    cases head : (strays (groups points)).head? with
    | some position => exact ⟨_, rfl⟩
    | none =>
        rw [List.head?_eq_none_iff, strays_nil_iff, ← grouped, Units.grouped_normalize,
          found] at head
        cases head

/-- Encoding follows its policy on every sequence. Accepting writes the encoding.
Rejecting fails exactly if a surrogate is left over when pairs are joined, and names
the first half without a partner by its place in the given sequence. Replacing
always writes the UTF-8 form of the text that shows the joined sequence. -/
theorem encoding_follows_policy (points : List CodePoint) :
    encodeUnder .accept points = .ok (encode points) ∧
    ((∃ error, encodeUnder .reject points = .error error) ↔
      hasSurrogate (Units.join (Units.split points)) = true) ∧
    (∀ position, encodeUnder .reject points = .error (.unpairedSurrogate position) ↔
      IsLeast {other | Unpaired points other} position) ∧
    (hasSurrogate (Units.join (Units.split points)) = false →
      encodeUnder .reject points = .ok (encode points) ∧
        decodeAll (encode points) .reject = .ok (Units.join (Units.split points))) ∧
    encodeUnder .replace points =
      .ok (encode (substituted (Units.join (Units.split points)))) ∧
    encode (substituted (Units.join (Units.split points))) =
      utf8 (lossyText (Units.join (Units.split points))) ∧
    ∀ policy, decodeAll (encode (substituted (Units.join (Units.split points)))) policy =
      .ok (substituted (Units.join (Units.split points))) := by
  have scalar := substituted_scalar (Units.normalize points)
  refine ⟨encodeUnder_accept points, encodeUnder_reject_fails_iff points,
    encodeUnder_reject_error_iff points, ?_, encodeUnder_replace points, ?_,
    scalar_reads_back _ scalar⟩
  · intro whole
    refine ⟨encodeUnder_reject_ok points whole, ?_⟩
    rw [← encode_normalize points]
    exact scalar_reads_back _ whole .reject
  · rw [utf8_bytes, ofText_lossyText_substituted]
    exact encode_scalar _ scalar

-- Behind a whole pair: a lead before a pair, and a trail that nothing is left for.
theorem encoding_follows_policy_behind_pairs :
    encodeUnder .reject [⟨0xD83D, by decide⟩, ⟨0xDE00, by decide⟩, ⟨0xD800, by decide⟩,
      ⟨0xD83D, by decide⟩, ⟨0xDE00, by decide⟩, ⟨0xDC00, by decide⟩] =
        .error (.unpairedSurrogate 2) ∧
      encodeUnder .reject [⟨0xD83D, by decide⟩, ⟨0xDE00, by decide⟩] =
        .ok (encode [⟨0xD83D, by decide⟩, ⟨0xDE00, by decide⟩]) := by
  refine ⟨?_, ?_⟩
  · apply ((encoding_follows_policy _).2.2.1 2).mpr
    refine ⟨by decide, ?_⟩
    intro other unpaired
    by_contra before
    have early : other = 0 ∨ other = 1 := by omega
    rcases early with rfl | rfl
    · exact absurd unpaired (by decide)
    · exact absurd unpaired (by decide)
  · exact ((encoding_follows_policy _).2.2.2.1 (by decide)).1

end Wobbly
