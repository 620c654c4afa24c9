import Wobbly.Session
import Wobbly.Proofs.Commands

/-! Sessions over whole runs. A step either fails and changes nothing or changes at
most one of the two parts, so a run is decided by its actions that succeed. Only
clearing takes bytes out of the segment: until then, what was written stands at its
place, whatever else is done, and is read back there under the policy that wrote it. -/
namespace Wobbly.Session
open Sequence Decoding Encoding

def Answer.isFailure : Answer → Bool
  | .failed _ => true
  | _ => false

variable (session : Session)

/-- All that a step can do. -/
theorem step_cases (action : Action) :
    (∃ failure, session.step action = (session, .failed failure)) ∨
      (∃ points answer, answer.isFailure = false ∧
        session.step action = ({ session with points := points }, answer)) ∨
      (∃ bytes answer, answer.isFailure = false ∧
        session.step action = ({ session with segment := session.segment ++ bytes }, answer)) ∨
      action = .clearSegment ∧ session.step action = ({ session with segment := [] }, .state) := by
  cases action with
  | push value =>
      simp only [step]
      cases CodePoint.check value with
      | ok point => exact .inr (.inl ⟨_, _, rfl, rfl⟩)
      | error cause => exact .inl ⟨_, rfl⟩
  | pushText text => exact .inr (.inl ⟨_, _, rfl, rfl⟩)
  | pushEscaped text =>
      simp only [step]
      cases Text.Escape.read text with
      | ok points => exact .inr (.inl ⟨_, _, rfl, rfl⟩)
      | error cause => exact .inl ⟨_, rfl⟩
  | pushUnits units => exact .inr (.inl ⟨_, _, rfl, rfl⟩)
  | normalize => exact .inr (.inl ⟨_, _, rfl, rfl⟩)
  | clear => exact .inr (.inl ⟨_, _, rfl, rfl⟩)
  | clearSegment => exact .inr (.inr (.inr ⟨rfl, rfl⟩))
  | append bytes => exact .inr (.inr (.inl ⟨bytes, _, rfl, rfl⟩))
  | read policy start stop =>
      simp only [step]
      cases decode session.segment (session.spanOf start stop) policy with
      | ok points => exact .inr (.inl ⟨_, _, rfl, rfl⟩)
      | error cause => exact .inl ⟨_, rfl⟩
  | write policy =>
      simp only [step]
      cases encodeUnder policy session.points with
      | ok bytes => exact .inr (.inr (.inl ⟨bytes, _, rfl, rfl⟩))
      | error cause => exact .inl ⟨_, rfl⟩
  | check policy start stop =>
      simp only [step]
      cases validate session.segment (session.spanOf start stop) policy with
      | ok _ => exact .inr (.inl ⟨session.points, _, rfl, rfl⟩)
      | error cause => exact .inl ⟨_, rfl⟩
  | scan position => exact .inr (.inl ⟨session.points, _, rfl, rfl⟩)
  | segment => exact .inr (.inl ⟨session.points, _, rfl, rfl⟩)

theorem step_failed (action : Action) (failed : (session.step action).2.isFailure = true) :
    (session.step action).1 = session := by
  rcases session.step_cases action with
    ⟨_, same⟩ | ⟨_, _, fine, same⟩ | ⟨_, _, fine, same⟩ | ⟨_, same⟩
  · rw [same]
  · rw [same, fine] at failed
    cases failed
  · rw [same, fine] at failed
    cases failed
  · rw [same] at failed
    cases failed

theorem step_frame (action : Action) :
    (session.step action).1.points = session.points ∨
      (session.step action).1.segment = session.segment := by
  rcases session.step_cases action with
    ⟨_, same⟩ | ⟨_, _, _, same⟩ | ⟨_, _, _, same⟩ | ⟨_, same⟩
  · exact .inl (by rw [same])
  · exact .inr (by rw [same])
  · exact .inl (by rw [same])
  · exact .inl (by rw [same])

-- The actions that do not fail when all of them are run in order.
def effective (session : Session) : List Action → List Action
  | [] => []
  | action :: rest =>
    let (next, answer) := session.step action
    if answer.isFailure then effective session rest else action :: effective next rest

/-- Actions that fail may be left out: the others have the same answers without them,
and the session ends the same. -/
theorem run_effective (actions : List Action) :
    session.run (session.effective actions) =
      ((session.run actions).1,
        (session.run actions).2.filter fun answered => !answered.2.isFailure) := by
  induction actions generalizing session with
  | nil => rfl
  | cons action rest ih =>
      cases failed : (session.step action).2.isFailure with
      | true =>
          have unchanged := session.step_failed action failed
          simp only [effective, run, failed, unchanged, if_true, ih, List.filter_cons,
            Bool.not_true, Bool.false_eq_true, if_false]
      | false =>
          simp only [effective, run, failed, Bool.false_eq_true, if_false, ih, List.filter_cons,
            Bool.not_false, if_true]

theorem step_segment (action : Action) (kept : action ≠ .clearSegment) :
    session.segment <+: (session.step action).1.segment := by
  rcases session.step_cases action with
    ⟨_, same⟩ | ⟨_, _, _, same⟩ | ⟨bytes, _, _, same⟩ | ⟨clearing, _⟩
  · rw [same]
  · rw [same]
  · rw [same]
    exact List.prefix_append session.segment bytes
  · exact absurd clearing kept

theorem run_segment (actions : List Action) (kept : .clearSegment ∉ actions) :
    session.segment <+: (session.run actions).1.segment := by
  induction actions generalizing session with
  | nil => exact List.prefix_rfl
  | cons action rest ih =>
      have first := session.step_segment action (List.ne_of_not_mem_cons kept).symm
      exact first.trans (ih _ (List.not_mem_of_not_mem_cons kept))

theorem step_written {policy : Policy} {bytes : List UInt8}
    (written : (session.step (.write policy)).2 = .written bytes) :
    encodeUnder policy session.points = .ok bytes ∧
      (session.step (.write policy)).1 =
        { session with segment := session.segment ++ bytes } := by
  simp only [step] at written ⊢
  cases encoded : encodeUnder policy session.points with
  | error cause =>
      rw [encoded] at written
      cases written
  | ok others =>
      rw [encoded] at written
      cases written
      exact ⟨rfl, rfl⟩

/-- What was written is read back from its place under the policy that wrote it, with
its pairs joined, after any actions that do not clear the segment. -/
theorem written_reads_back (policy : Policy) (bytes : List UInt8) (later : List Action)
    (written : (session.step (.write policy)).2 = .written bytes)
    (kept : .clearSegment ∉ later) :
    let after := (session.run (.write policy :: later)).1
    let stop := session.segment.length + bytes.length
    after.step (.read policy (some session.segment.length) (some stop)) =
      ({ after with points := leftUnder policy (Units.normalize session.points) }, .state) := by
  obtain ⟨encoded, next⟩ := session.step_written written
  have grown := (session.step (.write policy)).1.run_segment later kept
  rw [next] at grown
  obtain ⟨rest, segment⟩ := grown
  intro after stop
  have ends : after.segment = session.segment ++ bytes ++ rest := by
    change ((session.step (.write policy)).1.run later).1.segment = _
    rw [next, ← segment]
  have place : Span.window ⟨session.segment.length, stop⟩ after.segment = bytes := by
    rw [ends]
    simp [Span.window, stop]
  have placed : session.segment.length ≤ stop ∧ stop ≤ after.segment.length := by
    rw [ends, List.length_append, List.length_append]
    omega
  have read : decode after.segment (after.spanOf (some session.segment.length) (some stop))
      policy = .ok (leftUnder policy (Units.normalize session.points)) := by
    change decode after.segment ⟨session.segment.length, stop⟩ policy = _
    rw [decode_moved _ _ _ placed, place, encodeUnder_reads_back policy _ _ encoded]
    rfl
  simp only [step, read]

end Wobbly.Session
