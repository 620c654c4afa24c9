import Wobbly.Proofs.UnitTexts

/-! Groups and where they start. Behind its first group a sequence is grouped as
on its own, only further to the right. So the starts cut the sequence into parts
without a gap, and each part is a single member or the two halves of a pair. The
groups themselves are what a walk through 16-bit units finds. -/
namespace Wobbly
open CodePoint Sequence Encoding

namespace Sequence
variable {Item : Type}

def movedGroup (distance : Nat) (group : Nat × CodePoint) : Nat × CodePoint :=
  (group.1 + distance, group.2)

def starts (points : List CodePoint) : List Nat := (groups points).map Prod.fst

theorem groupsFrom_moved (position distance : Nat) (points : List CodePoint) :
    groupsFrom (position + distance) points =
      (groupsFrom position points).map (movedGroup distance) := by
  fun_induction groupsFrom position points with
  | case1 => rfl
  | case2 => rfl
  | case3 position first second rest whole joined ih =>
      rw [List.map_cons, ← ih, Nat.add_right_comm]
      simp only [groupsFrom, joined, movedGroup]
  | case4 position first second rest apart ih =>
      rw [List.map_cons, ← ih, Nat.add_right_comm]
      simp only [groupsFrom, apart, movedGroup]

theorem groups_pair (first second whole : CodePoint) (rest : List CodePoint)
    (joined : first.combine? second = some whole) :
    groups (first :: second :: rest) = (0, whole) :: (groups rest).map (movedGroup 2) := by
  rw [groups, groupsFrom, joined]
  exact congrArg (List.cons _) (groupsFrom_moved 0 2 rest)

theorem groups_single (first : CodePoint) (rest : List CodePoint)
    (alone : ∀ second ∈ rest.head?, ¬Paired first second) :
    groups (first :: rest) = (0, first) :: (groups rest).map (movedGroup 1) := by
  cases rest with
  | nil => rfl
  | cons second rest =>
      rw [groups, groupsFrom, (combine_none_iff first second).mpr (alone second rfl)]
      exact congrArg (List.cons _) (groupsFrom_moved 0 1 (second :: rest))

theorem starts_moved (distance : Nat) (points : List CodePoint) :
    ((groups points).map (movedGroup distance)).map Prod.fst =
      (starts points).map (· + distance) := by
  rw [starts, List.map_map, List.map_map]
  rfl

theorem starts_pair (first second whole : CodePoint) (rest : List CodePoint)
    (joined : first.combine? second = some whole) :
    starts (first :: second :: rest) = 0 :: (starts rest).map (· + 2) := by
  rw [starts, groups_pair first second whole rest joined, List.map_cons, starts_moved]

theorem starts_single (first : CodePoint) (rest : List CodePoint)
    (alone : ∀ second ∈ rest.head?, ¬Paired first second) :
    starts (first :: rest) = 0 :: (starts rest).map (· + 1) := by
  rw [starts, groups_single first rest alone, List.map_cons, starts_moved]

theorem starts_head (points : List CodePoint) :
    (starts points).head? = points.head?.map fun _ => 0 := by
  rcases grouping_cases points with rfl | ⟨first, second, whole, rest, rfl, joined⟩ |
    ⟨first, rest, rfl, alone⟩
  · rfl
  · rw [starts_pair first second whole rest joined]
    rfl
  · rw [starts_single first rest alone]
    rfl

theorem increasing_behind (positions : List Nat) (distance : Nat) (positive : 0 < distance)
    (increasing : positions.Pairwise (· < ·)) :
    (0 :: positions.map (· + distance)).Pairwise (· < ·) := by
  apply List.pairwise_cons.mpr
  constructor
  · intro position member
    obtain ⟨_, _, rfl⟩ := List.mem_map.mp member
    omega
  · exact increasing.map _ fun _ _ before => Nat.add_lt_add_right before distance

theorem starts_increasing (points : List CodePoint) : (starts points).Pairwise (· < ·) := by
  induction points using grouping_induction with
  | done => exact List.Pairwise.nil
  | pair first second whole rest joined ih =>
      rw [starts_pair first second whole rest joined]
      exact increasing_behind _ 2 (by decide) ih
  | single first rest alone ih =>
      rw [starts_single first rest alone]
      exact increasing_behind _ 1 (by decide) ih

/-- The parts of a list from each position to the next, the last one to the end. -/
def cuts (items : List Item) : List Nat → List (List Item)
  | [] => []
  | start :: later => (items.take (later.headD items.length)).drop start :: cuts items later

theorem cuts_moved (front items : List Item) (positions : List Nat) :
    cuts (front ++ items) (positions.map (· + front.length)) = cuts items positions := by
  induction positions with
  | nil => rfl
  | cons start later ih =>
      have next : (later.map (· + front.length)).headD (front ++ items).length =
          front.length + later.headD items.length := by
        cases later with
        | nil => exact List.length_append
        | cons => exact Nat.add_comm _ _
      rw [List.map_cons, cuts, cuts, ih, next, List.take_length_add_append, Nat.add_comm start,
        List.drop_length_add_append]

/-- A first part of any length is cut off in front of the groups of the rest. -/
theorem cuts_front (front rest : List CodePoint) :
    cuts (front ++ rest) (0 :: (starts rest).map (· + front.length)) =
      front :: cuts rest (starts rest) := by
  have next : ((starts rest).map (· + front.length)).headD (front ++ rest).length =
      front.length := by
    rw [List.headD_eq_head?_getD, List.head?_map, starts_head]
    cases rest with
    | nil => simp
    | cons => simp
  rw [cuts, cuts_moved, next, List.take_left, List.drop_zero]

theorem cuts_pair (first second whole : CodePoint) (rest : List CodePoint)
    (joined : first.combine? second = some whole) :
    cuts (first :: second :: rest) (starts (first :: second :: rest)) =
      [first, second] :: cuts rest (starts rest) := by
  rw [starts_pair first second whole rest joined]
  exact cuts_front [first, second] rest

theorem cuts_single (first : CodePoint) (rest : List CodePoint)
    (alone : ∀ second ∈ rest.head?, ¬Paired first second) :
    cuts (first :: rest) (starts (first :: rest)) = [first] :: cuts rest (starts rest) := by
  rw [starts_single first rest alone]
  exact cuts_front [first] rest

inductive StandsFor : CodePoint → List CodePoint → Prop where
  | member (point : CodePoint) : StandsFor point [point]
  | pair {lead trail whole : CodePoint} (paired : Paired lead trail)
      (joined : lead.combine? trail = some whole) : StandsFor whole [lead, trail]

theorem groups_stand (points : List CodePoint) :
    List.Forall₂ StandsFor (grouped points) (cuts points (starts points)) := by
  induction points using grouping_induction with
  | done => exact List.Forall₂.nil
  | pair first second whole rest joined ih =>
      have paired := ((combine_some_iff first second whole).mp joined).1
      rw [grouped_pair first second whole rest joined, cuts_pair first second whole rest joined]
      exact List.Forall₂.cons (.pair paired joined) ih
  | single first rest alone ih =>
      rw [grouped_single first rest alone, cuts_single first rest alone]
      exact List.Forall₂.cons (.member first) ih

theorem cuts_flatten (points : List CodePoint) :
    (cuts points (starts points)).flatten = points := by
  induction points using grouping_induction with
  | done => rfl
  | pair first second whole rest joined ih =>
      rw [cuts_pair first second whole rest joined, List.flatten_cons, ih]
      rfl
  | single first rest alone ih =>
      rw [cuts_single first rest alone, List.flatten_cons, ih]
      rfl

end Sequence

theorem encode_normalize (points : List CodePoint) :
    encode (Units.normalize points) = encode points := by
  rw [encode_eq_iff, Units.normalize, Units.split_join]

/-- Grouping finds what joining the 16-bit units of a sequence finds, and knows
where: the starts ascend from zero and cut the sequence into its single members
and its pairs, nothing lost and nothing twice. The joined sequence is joined for
good, and it is encoded like the given one. -/
theorem groups_cut_like_units (points : List CodePoint) :
    (groups points).map Prod.snd = Units.join (Units.split points) ∧
    (starts points).head? = points.head?.map (fun _ => 0) ∧
    (starts points).Pairwise (· < ·) ∧
    List.Forall₂ StandsFor ((groups points).map Prod.snd) (cuts points (starts points)) ∧
    (cuts points (starts points)).flatten = points ∧
    Units.join (Units.split (Units.join (Units.split points))) =
      Units.join (Units.split points) ∧
    encode (Units.join (Units.split points)) = encode points ∧
    encodedLength (Units.join (Units.split points)) = encodedLength points := by
  have written := encode_normalize points
  refine ⟨Units.grouped_normalize points, starts_head points, starts_increasing points,
    groups_stand points, cuts_flatten points, ?_, written, ?_⟩
  · rw [Units.split_join]
  · rw [encodedLength_exact, encodedLength_exact]
    exact congrArg List.length written

-- Two leads, a trail and another trail: the pair is in the middle.
example : groups [⟨0xD800, by decide⟩, ⟨0xD800, by decide⟩, ⟨0xDC00, by decide⟩,
    ⟨0xDC00, by decide⟩] =
    [(0, ⟨0xD800, by decide⟩), (1, ⟨0x10000, by decide⟩), (3, ⟨0xDC00, by decide⟩)] := by decide

end Wobbly
