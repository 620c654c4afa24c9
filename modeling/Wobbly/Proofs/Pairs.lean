import Mathlib.Data.List.Chain
import Wobbly.Encoding

/-! Pairs in sequences of code points. Grouping leaves no lead right before a
trail and changes nothing where there was none. It also agrees with a walk
through 16-bit units: splitting a supplementary code point never lends a half
of it to a neighbour, so joining the units again finds the same pairs. -/
namespace Wobbly

namespace CodePoint

def Paired (first second : CodePoint) : Prop := first.isLead = true ∧ second.isTrail = true

theorem lead_iff (point : CodePoint) :
    point.isLead = true ↔ 0xD800 ≤ point.value ∧ point.value ≤ 0xDBFF := decide_eq_true_iff

theorem trail_iff (point : CodePoint) :
    point.isTrail = true ↔ 0xDC00 ≤ point.value ∧ point.value ≤ 0xDFFF := decide_eq_true_iff

theorem combine_none_iff (first second : CodePoint) :
    first.combine? second = none ↔ ¬Paired first second := by
  unfold combine?
  split
  · next paired => simp [Paired, paired]
  · next apart => simpa [Paired] using apart

theorem combine_some_iff (first second whole : CodePoint) :
    first.combine? second = some whole ↔ Paired first second ∧
      whole.value = 0x10000 + (first.value - 0xD800) * 0x400 + (second.value - 0xDC00) := by
  unfold combine?
  split
  · next paired =>
    constructor
    · intro joined
      rw [← Option.some.inj joined]
      exact ⟨paired, rfl⟩
    · rintro ⟨_, value⟩
      exact congrArg some (CodePoint.ext value.symm)
  · next apart =>
    constructor
    · intro joined
      cases joined
    · rintro ⟨paired, _⟩
      exact absurd paired apart

/-- A joined pair lies above all surrogates. -/
theorem combine_supplementary (first second whole : CodePoint)
    (joined : first.combine? second = some whole) : 0x10000 ≤ whole.value := by
  have value := ((combine_some_iff first second whole).mp joined).2
  omega

theorem supplementary_not_lead (point : CodePoint) (large : 0x10000 ≤ point.value) :
    point.isLead = false := by
  rw [← Bool.not_eq_true, lead_iff]
  omega

theorem supplementary_not_trail (point : CodePoint) (large : 0x10000 ≤ point.value) :
    point.isTrail = false := by
  rw [← Bool.not_eq_true, trail_iff]
  omega

theorem supplementary_scalar (point : CodePoint) (large : 0x10000 ≤ point.value) :
    point.isSurrogate = false := by
  rw [surrogate_halves, supplementary_not_lead point large, supplementary_not_trail point large]
  rfl

theorem trail_not_lead (point : CodePoint) (trail : point.isTrail = true) :
    point.isLead = false := by
  rw [← Bool.not_eq_true]
  intro lead
  rw [lead_not_trail point lead] at trail
  cases trail

end CodePoint

namespace Sequence
open CodePoint

def PairFree (points : List CodePoint) : Prop :=
  points.IsChain fun first second => ¬Paired first second

theorem pairFree_cons_cons (first second : CodePoint) (rest : List CodePoint) :
    PairFree (first :: second :: rest) ↔ ¬Paired first second ∧ PairFree (second :: rest) :=
  List.isChain_cons_cons

theorem groupsFrom_points (position : Nat) (points : List CodePoint) :
    (groupsFrom position points).map Prod.snd = grouped points := by
  have shifted : ∀ left right, (groupsFrom left points).map Prod.snd =
      (groupsFrom right points).map Prod.snd := by
    intro left right
    fun_induction groupsFrom left points generalizing right with
    | case1 => rfl
    | case2 => rfl
    | case3 left first second rest whole joined ih => simp [groupsFrom, joined, ih (right + 2)]
    | case4 left first second rest apart ih => simp [groupsFrom, apart, ih (right + 1)]
  exact shifted position 0

theorem grouped_pair (first second whole : CodePoint) (rest : List CodePoint)
    (joined : first.combine? second = some whole) :
    grouped (first :: second :: rest) = whole :: grouped rest := by
  have step : groups (first :: second :: rest) = (0, whole) :: groupsFrom 2 rest := by
    simp only [groups, groupsFrom, joined, Nat.zero_add]
  rw [grouped, step, List.map_cons, groupsFrom_points]

theorem grouped_single (first : CodePoint) (rest : List CodePoint)
    (alone : ∀ second ∈ rest.head?, ¬Paired first second) :
    grouped (first :: rest) = first :: grouped rest := by
  cases rest with
  | nil => rfl
  | cons second rest =>
      have apart := (combine_none_iff first second).mpr (alone second rfl)
      have step : groups (first :: second :: rest) =
          (0, first) :: groupsFrom 1 (second :: rest) := by
        simp only [groups, groupsFrom, apart, Nat.zero_add]
      rw [grouped, step, List.map_cons, groupsFrom_points]

/-- Every sequence is empty, starts with a pair, or starts with a member that
the next one does not complete. -/
theorem grouping_cases (points : List CodePoint) :
    points = [] ∨
    (∃ first second whole rest, points = first :: second :: rest ∧
      first.combine? second = some whole) ∨
    ∃ first rest, points = first :: rest ∧ ∀ second ∈ rest.head?, ¬Paired first second := by
  rcases points with _ | ⟨first, _ | ⟨second, rest⟩⟩
  · exact Or.inl rfl
  · exact Or.inr (Or.inr ⟨first, [], rfl, by simp⟩)
  · cases joined : first.combine? second with
    | some whole => exact Or.inr (Or.inl ⟨first, second, whole, rest, rfl, joined⟩)
    | none =>
        refine Or.inr (Or.inr ⟨first, second :: rest, rfl, ?_⟩)
        rintro next ⟨⟩
        exact (combine_none_iff first second).mp joined

/-- Grouping follows these three cases. -/
theorem grouping_induction {motive : List CodePoint → Prop} (points : List CodePoint)
    (done : motive [])
    (pair : ∀ first second whole rest, first.combine? second = some whole → motive rest →
      motive (first :: second :: rest))
    (single : ∀ first rest, (∀ second ∈ rest.head?, ¬Paired first second) → motive rest →
      motive (first :: rest)) : motive points := by
  fun_induction groupsFrom 0 points with
  | case1 => exact done
  | case2 _ last => exact single last [] (by simp) done
  | case3 _ first second rest whole joined ih => exact pair first second whole rest joined ih
  | case4 _ first second rest apart ih =>
      apply single first (second :: rest) _ ih
      intro next isNext
      cases isNext
      exact (combine_none_iff first second).mp apart

/-- The first group is a trail only if the sequence starts with one. -/
theorem grouped_head_trail (points : List CodePoint) (group : CodePoint)
    (head : group ∈ (grouped points).head?) (trail : group.isTrail = true) :
    group ∈ points.head? := by
  rcases grouping_cases points with rfl | ⟨first, second, whole, rest, rfl, joined⟩ |
    ⟨first, rest, rfl, alone⟩
  · cases head
  · rw [grouped_pair first second whole rest joined] at head
    have same : whole = group := Option.some.inj head
    have large := combine_supplementary first second whole joined
    rw [← same, supplementary_not_trail whole large] at trail
    cases trail
  · rw [grouped_single first rest alone] at head
    exact head

theorem grouped_pairFree (points : List CodePoint) : PairFree (grouped points) := by
  induction points using grouping_induction with
  | done => exact List.IsChain.nil
  | pair first second whole rest joined ih =>
      rw [grouped_pair first second whole rest joined]
      apply List.IsChain.cons ih
      intro next _ paired
      have large := combine_supplementary first second whole joined
      rw [Paired, supplementary_not_lead whole large] at paired
      cases paired.1
  | single first rest alone ih =>
      -- The next group may be a joined pair, and then it is no trail.
      rw [grouped_single first rest alone]
      apply List.IsChain.cons ih
      intro next head paired
      exact alone next (grouped_head_trail rest next head paired.2) paired

theorem grouped_of_pairFree (points : List CodePoint) (free : PairFree points) :
    grouped points = points := by
  induction points with
  | nil => rfl
  | cons first rest ih =>
      obtain ⟨alone, later⟩ := List.isChain_cons.mp free
      rw [grouped_single first rest alone, ih later]

theorem grouped_fixed_iff (points : List CodePoint) :
    grouped points = points ↔ PairFree points := by
  constructor
  · intro fixed
    rw [← fixed]
    exact grouped_pairFree points
  · exact grouped_of_pairFree points

end Sequence

namespace Units
open CodePoint

theorem point_ofNat (point : CodePoint) (small : point.value < 0x10000) :
    Units.point (.ofNat point.value) = point := by
  apply CodePoint.ext
  exact UInt16.toNat_ofNat_of_lt small

theorem halves_small (point : CodePoint) (small : point.value < 0x10000) :
    halves point = [.ofNat point.value] := if_pos small

/-- A supplementary code point is split into a lead and a trail that combine
to it again. -/
theorem halves_large (point : CodePoint) (large : 0x10000 ≤ point.value) :
    ∃ lead trail, halves point = [lead, trail] ∧
      (Units.point lead).combine? (Units.point trail) = some point := by
  have bounded := point.bounded
  have leadValue : (UInt16.ofNat (0xD800 + (point.value - 0x10000) / 0x400)).toNat =
      0xD800 + (point.value - 0x10000) / 0x400 := by
    apply UInt16.toNat_ofNat_of_lt
    change _ < 0x10000
    omega
  have trailValue : (UInt16.ofNat (0xDC00 + (point.value - 0x10000) % 0x400)).toNat =
      0xDC00 + (point.value - 0x10000) % 0x400 := by
    apply UInt16.toNat_ofNat_of_lt
    change _ < 0x10000
    omega
  refine ⟨_, _, if_neg (by omega), ?_⟩
  have paired : Paired (Units.point (.ofNat (0xD800 + (point.value - 0x10000) / 0x400)))
      (Units.point (.ofNat (0xDC00 + (point.value - 0x10000) % 0x400))) := by
    rw [Paired, lead_iff, trail_iff]
    simp only [Units.point, leadValue, trailValue]
    omega
  apply (combine_some_iff _ _ point).mpr
  refine ⟨paired, ?_⟩
  simp only [Units.point, leadValue, trailValue]
  omega

theorem split_cons (first : CodePoint) (rest : List CodePoint) :
    split (first :: rest) = halves first ++ split rest := List.flatMap_cons

theorem join_pair (first second : UInt16) (whole : CodePoint) (rest : List UInt16)
    (joined : (Units.point first).combine? (Units.point second) = some whole) :
    join (first :: second :: rest) = whole :: join rest := by
  simp [join, joined]

theorem join_single (first : UInt16) (rest : List UInt16)
    (alone : ∀ second ∈ rest.head?, ¬Paired (Units.point first) (Units.point second)) :
    join (first :: rest) = Units.point first :: join rest := by
  cases rest with
  | nil => rfl
  | cons second rest =>
      have apart := (combine_none_iff _ _).mpr (alone second rfl)
      simp [join, apart]

/-- The first unit is a trail only if the sequence starts with that trail. -/
theorem split_head_trail (points : List CodePoint) (unit : UInt16)
    (head : unit ∈ (split points).head?) (trail : (Units.point unit).isTrail = true) :
    Units.point unit ∈ points.head? := by
  cases points with
  | nil => cases head
  | cons first rest =>
      rw [split_cons] at head
      by_cases small : first.value < 0x10000
      · rw [halves_small first small] at head
        cases head
        rw [point_ofNat first small]
        rfl
      · obtain ⟨lead, last, split, joined⟩ := halves_large first (Nat.le_of_not_lt small)
        rw [split] at head
        cases head
        have isLead := ((combine_some_iff _ _ _).mp joined).1.1
        rw [lead_not_trail _ isLead] at trail
        cases trail

/-- Pairs are found alike among code points and among their units. -/
theorem grouped_normalize (points : List CodePoint) :
    Sequence.grouped points = normalize points := by
  unfold normalize
  induction points using Sequence.grouping_induction with
  | done => rfl
  | pair first second whole rest joined ih =>
      obtain ⟨⟨lead, trail⟩, _⟩ := (combine_some_iff first second whole).mp joined
      have firstSmall : first.value < 0x10000 := by
        rw [lead_iff] at lead
        omega
      have secondSmall : second.value < 0x10000 := by
        rw [trail_iff] at trail
        omega
      rw [Sequence.grouped_pair first second whole rest joined, split_cons, split_cons,
        halves_small first firstSmall, halves_small second secondSmall, ih]
      symm
      apply join_pair
      rw [point_ofNat first firstSmall, point_ofNat second secondSmall]
      exact joined
  | single first rest alone ih =>
      rw [Sequence.grouped_single first rest alone, split_cons, ih]
      by_cases small : first.value < 0x10000
      · rw [halves_small first small]
        -- Splitting what follows may put a lead in front of it, but never a trail.
        have kept : ∀ unit ∈ (split rest).head?,
            ¬Paired (Units.point (.ofNat first.value)) (Units.point unit) := by
          rw [point_ofNat first small]
          intro unit head paired
          exact alone _ (split_head_trail rest unit head paired.2) paired
        exact (join_single _ _ kept).trans (by rw [point_ofNat first small]) |>.symm
      · obtain ⟨lead, trail, split, joined⟩ := halves_large first (Nat.le_of_not_lt small)
        rw [split]
        exact (join_pair lead trail first _ joined).symm

end Units
end Wobbly
