import Wobbly.Decoding
import Wobbly.Proofs.Forms

/-! Walks as derivations. A run says for a whole window which pieces a walk
leaves behind and where it stops, in terms of the bytes of code points alone.
Every window has a run, and a walk with any visitor is a fold over the pieces
of the run. Decoding is one such fold, so what it returns is read off a run. -/
namespace Wobbly

namespace Reading
variable {State : Type} {policy : Policy} {offset : Nat} {afterLead : Bool}
  {window : List UInt8} {pieces : List Piece} {stopped : Option Nat}

-- Nothing that may be kept stands in front of the window.
def Unreadable (policy : Policy) (afterLead : Bool) (window : List UInt8) : Prop :=
  ∀ point : CodePoint, point.bytes <+: window → welcome policy afterLead point = false

inductive Run (policy : Policy) : Nat → Bool → List UInt8 → List Piece → Option Nat → Prop where
  | done {offset : Nat} {afterLead : Bool} : Run policy offset afterLead [] [] none
  | keep {offset : Nat} {afterLead : Bool} {rest : List UInt8} {pieces : List Piece}
      {stopped : Option Nat} (point : CodePoint) (kept : welcome policy afterLead point = true)
      (later : Run policy (offset + point.width) point.isLead rest pieces stopped) :
      Run policy offset afterLead (point.bytes ++ rest) (.kept offset point :: pieces) stopped
  | replace {offset : Nat} {afterLead : Bool} {byte : UInt8} {rest : List UInt8}
      {pieces : List Piece} {stopped : Option Nat} (replacing : policy = .replace)
      (unreadable : Unreadable policy afterLead (byte :: rest))
      (later : Run policy (offset + 1) false rest pieces stopped) :
      Run policy offset afterLead (byte :: rest) (.replaced offset byte :: pieces) stopped
  | stop {offset : Nat} {afterLead : Bool} {byte : UInt8} {rest : List UInt8}
      (strict : policy ≠ .replace) (unreadable : Unreadable policy afterLead (byte :: rest)) :
      Run policy offset afterLead (byte :: rest) [] (some offset)

-- A stop is described by its place alone; the policy has the error for it.
def stopAt (policy : Policy) (position : Nat) : Option Stop :=
  (DecodeError.malformed? policy position).map (Stop.mk position)

theorem stopAt_error (policy : Policy) (position : Nat) :
    (stopAt policy position).map Stop.error = DecodeError.malformed? policy position := by
  rw [stopAt, Option.map_map]
  exact Option.map_id'

theorem malformed_offset {position : Nat} {error : DecodeError}
    (malformed : DecodeError.malformed? policy position = some error) :
    error.offset = position := by
  cases policy <;> cases malformed <;> rfl

theorem stop_malformed {stop : Stop} (stops : stop ∈ stopped.bind (stopAt policy)) :
    DecodeError.malformed? policy stop.offset = some stop.error := by
  obtain ⟨position, _, found⟩ := Option.bind_eq_some_iff.mp stops
  obtain ⟨error, malformed, rfl⟩ := Option.map_eq_some_iff.mp found
  exact malformed

theorem malformed_strict (strict : policy ≠ .replace) (position : Nat) :
    ∃ error, DecodeError.malformed? policy position = some error := by
  cases policy with
  | accept => exact ⟨_, rfl⟩
  | reject => exact ⟨_, rfl⟩
  | replace => exact absurd rfl strict

theorem step_cases (policy : Policy) (offset : Nat) (afterLead : Bool) (window : List UInt8) :
    (∃ found, step policy offset afterLead window = .keep found ∧
      Scan.front? window = some found ∧ welcome policy afterLead found.point = true) ∨
      step policy offset afterLead window = refusal policy offset := by
  unfold step
  cases Scan.front? window with
  | none => exact .inr rfl
  | some found =>
      by_cases welcomed : welcome policy afterLead found.point = true
      · exact .inl ⟨found, if_pos welcomed, rfl, welcomed⟩
      · exact .inr (if_neg welcomed)

theorem step_kept (policy : Policy) (offset : Nat) (afterLead : Bool) (point : CodePoint)
    (rest : List UInt8) (kept : welcome policy afterLead point = true) :
    step policy offset afterLead (point.bytes ++ rest) = .keep ⟨point, point.width⟩ := by
  simp [step, Scan.front_bytes, kept]

theorem step_unreadable (offset : Nat) (unreadable : Unreadable policy afterLead window) :
    step policy offset afterLead window = refusal policy offset := by
  rcases step_cases policy offset afterLead window with ⟨found, _, read, welcomed⟩ | refused
  · obtain ⟨_, cut⟩ := Scan.front_exact window found read
    rw [unreadable found.point ⟨_, cut.symm⟩] at welcomed
    cases welcomed
  · exact refused

theorem readable_or_not (policy : Policy) (afterLead : Bool) (window : List UInt8) :
    (∃ point rest, window = CodePoint.bytes point ++ rest ∧
      welcome policy afterLead point = true) ∨ Unreadable policy afterLead window := by
  by_cases unreadable : Unreadable policy afterLead window
  · exact Or.inr unreadable
  · simp only [Unreadable, Classical.not_forall, Bool.not_eq_false] at unreadable
    obtain ⟨point, ⟨rest, cut⟩, kept⟩ := unreadable
    exact Or.inl ⟨point, rest, cut.symm, kept⟩

theorem walk_kept (visit : State → Piece → State) (state : State) (point : CodePoint)
    (rest : List UInt8) (kept : welcome policy afterLead point = true) :
    walk policy visit state offset afterLead (point.bytes ++ rest) =
      walk policy visit (visit state (.kept offset point)) (offset + point.width)
        point.isLead rest := by
  have step := step_kept policy offset afterLead point rest kept
  obtain ⟨lead, tails, spelled, measured, _⟩ := bytes_cons point
  rw [spelled, List.cons_append] at step
  -- The walk drops what is left of the spelling behind its first byte.
  have remaining : (tails ++ rest).drop (point.width - 1) = rest :=
    List.drop_left' (by omega)
  rw [spelled, List.cons_append, walk, step]
  simp only [remaining]

theorem walk_replaced (visit : State → Piece → State) (state : State) (byte : UInt8)
    (rest : List UInt8) (unreadable : Unreadable .replace afterLead (byte :: rest)) :
    walk .replace visit state offset afterLead (byte :: rest) =
      walk .replace visit (visit state (.replaced offset byte)) (offset + 1) false rest := by
  rw [walk, step_unreadable offset unreadable]
  rfl

theorem walk_stopped (visit : State → Piece → State) (state : State) (byte : UInt8)
    (rest : List UInt8) (strict : policy ≠ .replace)
    (unreadable : Unreadable policy afterLead (byte :: rest)) :
    walk policy visit state offset afterLead (byte :: rest) = (state, stopAt policy offset) := by
  obtain ⟨error, malformed⟩ := malformed_strict strict offset
  rw [walk, step_unreadable offset unreadable, refusal, stopAt, malformed]
  rfl

/-- A walk visits the pieces of its run in order, whatever the visitor does. -/
theorem run_walk (run : Run policy offset afterLead window pieces stopped)
    (visit : State → Piece → State) (state : State) :
    walk policy visit state offset afterLead window =
      (pieces.foldl visit state, stopped.bind (stopAt policy)) := by
  induction run generalizing state with
  | done =>
      rw [walk]
      rfl
  | keep point kept _ ih => rw [walk_kept visit state point _ kept, ih, List.foldl_cons]
  | replace replacing unreadable _ ih =>
      subst replacing
      rw [walk_replaced visit state _ _ unreadable, ih, List.foldl_cons]
  | stop strict unreadable =>
      rw [walk_stopped visit state _ _ strict unreadable]
      rfl

theorem run_exists (policy : Policy) (offset : Nat) (afterLead : Bool) (window : List UInt8) :
    ∃ pieces stopped, Run policy offset afterLead window pieces stopped := by
  induction size : window.length using Nat.strongRecOn generalizing offset afterLead window with
  | ind size ih =>
      subst size
      cases window with
      | nil => exact ⟨[], none, Run.done⟩
      | cons byte rest =>
          rcases readable_or_not policy afterLead (byte :: rest) with
            ⟨point, remaining, front, kept⟩ | unreadable
          · -- A spelling is never empty, so keeping it leaves a shorter window.
            have shorter : remaining.length < (byte :: rest).length := by
              have positive := width_pos point
              rw [front, List.length_append, bytes_length]
              omega
            obtain ⟨pieces, stopped, later⟩ :=
              ih _ shorter (offset + point.width) point.isLead remaining rfl
            rw [front]
            exact ⟨_, stopped, Run.keep point kept later⟩
          · by_cases replacing : policy = .replace
            · have shorter : rest.length < (byte :: rest).length := by simp
              obtain ⟨pieces, stopped, later⟩ := ih _ shorter (offset + 1) false rest rfl
              exact ⟨_, stopped, Run.replace replacing unreadable later⟩
            · exact ⟨[], _, Run.stop replacing unreadable⟩

theorem run_unwelcome (point : CodePoint) (rest : List UInt8) (strict : policy ≠ .replace)
    (unwelcome : welcome policy afterLead point = false) :
    Run policy offset afterLead (point.bytes ++ rest) [] (some offset) := by
  have unreadable : Unreadable policy afterLead (point.bytes ++ rest) := by
    intro other front
    rw [bytes_front_unique other point rest front]
    exact unwelcome
  obtain ⟨lead, tails, spelled, _⟩ := bytes_cons point
  rw [spelled, List.cons_append] at unreadable ⊢
  exact Run.stop strict unreadable

theorem run_stopped_strict {position : Nat}
    (run : Run policy offset afterLead window pieces (some position)) : policy ≠ .replace := by
  generalize ending : some position = stopped at run
  induction run with
  | done => cases ending
  | keep _ _ _ ih => exact ih ending
  | replace _ _ _ ih => exact ih ending
  | stop strict _ => exact strict

theorem run_stop_offset (run : Run policy offset afterLead window pieces stopped) :
    (stopped.bind (stopAt policy)).map Stop.offset = stopped := by
  cases stopped with
  | none => rfl
  | some position =>
      obtain ⟨_, malformed⟩ := malformed_strict (run_stopped_strict run) position
      rw [Option.bind_some, stopAt, malformed]
      rfl

-- Both runs describe the same walk; the visitor that collects pieces tells them apart.
theorem run_unique {others : List Piece} {ending : Option Nat}
    (left : Run policy offset afterLead window pieces stopped)
    (right : Run policy offset afterLead window others ending) :
    pieces = others ∧ stopped = ending := by
  have same := (run_walk left (fun seen piece => piece :: seen) []).symm.trans
    (run_walk right (fun seen piece => piece :: seen) [])
  simp only [List.foldl_flip_cons_eq_append, Prod.mk.injEq] at same
  refine ⟨by simpa using same.1, ?_⟩
  rw [← run_stop_offset left, same.2, run_stop_offset right]

theorem replace_run (offset : Nat) (afterLead : Bool) (window : List UInt8) :
    ∃ pieces, Run .replace offset afterLead window pieces none := by
  obtain ⟨pieces, stopped, run⟩ := run_exists .replace offset afterLead window
  cases stopped with
  | none => exact ⟨pieces, run⟩
  | some position => exact absurd rfl (run_stopped_strict run)

def Admitted (policy : Policy) : Bool → List CodePoint → Prop
  | _, [] => True
  | afterLead, point :: rest =>
      welcome policy afterLead point = true ∧ Admitted policy point.isLead rest

/-- A strict run to the end keeps everything: its window is the row of the
bytes of what it kept, and what it kept was admitted. -/
theorem run_admitted (strict : policy ≠ .replace)
    (run : Run policy offset afterLead window pieces none) :
    window = (pieces.map Piece.point).flatMap CodePoint.bytes ∧
      Admitted policy afterLead (pieces.map Piece.point) := by
  generalize ending : none = stopped at run
  induction run with
  | done => exact ⟨rfl, trivial⟩
  | keep point kept _ ih =>
      obtain ⟨row, admitted⟩ := ih ending
      rw [List.map_cons, List.flatMap_cons, row]
      exact ⟨rfl, kept, admitted⟩
  | replace replacing _ _ _ => exact absurd replacing strict
  | stop _ _ => cases ending

-- Whether the last of the code points is a lead; without any, the flag stays.
def leadAfter (afterLead : Bool) : List CodePoint → Bool
  | [] => afterLead
  | point :: rest => leadAfter point.isLead rest

/-- Admitted code points are read back from their bytes under every policy, and
the walk goes on behind them. -/
theorem run_append (points : List CodePoint) (rest : List UInt8)
    (admitted : Admitted policy afterLead points)
    (later : Run policy (offset + (points.flatMap CodePoint.bytes).length)
      (leadAfter afterLead points) rest pieces stopped) :
    ∃ front, Run policy offset afterLead (points.flatMap CodePoint.bytes ++ rest)
      (front ++ pieces) stopped ∧ front.map Piece.point = points := by
  induction points generalizing offset afterLead with
  | nil => exact ⟨[], later, rfl⟩
  | cons point points ih =>
      obtain ⟨kept, admittedRest⟩ := admitted
      rw [List.flatMap_cons, List.length_append, bytes_length, ← Nat.add_assoc] at later
      obtain ⟨front, run, same⟩ := ih admittedRest later
      rw [List.flatMap_cons, List.append_assoc]
      exact ⟨.kept offset point :: front, Run.keep point kept run, congrArg (List.cons point) same⟩

theorem admitted_run (policy : Policy) (offset : Nat) (afterLead : Bool)
    (points : List CodePoint) (admitted : Admitted policy afterLead points) :
    ∃ pieces, Run policy offset afterLead (points.flatMap CodePoint.bytes) pieces none ∧
      pieces.map Piece.point = points := by
  have ended : Run policy (offset + (points.flatMap CodePoint.bytes).length)
      (leadAfter afterLead points) [] [] none := Run.done
  obtain ⟨front, run, same⟩ := run_append points [] admitted ended
  rw [List.append_nil, List.append_nil] at run
  exact ⟨front, run, same⟩

end Reading

namespace Decoding
open Reading
variable {policy : Policy} {start : Nat} {window : List UInt8} {pieces : List Piece}
  {stopped : Option Nat}

theorem collect_pieces (pieces : List Piece) (points : List CodePoint) (notices : List Notice) :
    pieces.foldl collect (points, notices) =
      ((pieces.map Piece.point).reverse ++ points, pieces.foldl note notices) := by
  induction pieces generalizing points notices with
  | nil => rfl
  | cons piece rest ih => simp [collect, ih]

theorem decodeWindow_run (run : Run policy start false window pieces stopped) :
    decodeWindow policy start window =
      conclude policy (pieces.map Piece.point) (pieces.foldl note [])
        (stopped.bind (stopAt policy)) := by
  unfold decodeWindow
  rw [run_walk run collect ([], []), collect_pieces]
  simp

theorem conclude_ok_iff {Value : Type} (policy : Policy) (value wanted : Value)
    (notices : List Notice) (stopped : Option Stop) :
    (conclude policy value notices stopped).result = .ok wanted ↔
      stopped = none ∧ value = wanted := by
  cases stopped <;> simp [conclude]

theorem conclude_error_iff {Value : Type} (policy : Policy) (value : Value)
    (notices : List Notice) (stopped : Option Stop) (error : DecodeError) :
    (conclude policy value notices stopped).result = .error error ↔
      stopped.map Stop.error = some error := by
  cases stopped <;> simp [conclude]

theorem decodeWindow_ok_iff (policy : Policy) (start : Nat) (window : List UInt8)
    (points : List CodePoint) :
    (decodeWindow policy start window).result = .ok points ↔
      ∃ pieces, Run policy start false window pieces none ∧ pieces.map Piece.point = points := by
  obtain ⟨pieces, stopped, run⟩ := run_exists policy start false window
  rw [decodeWindow_run run, conclude_ok_iff]
  constructor
  · rintro ⟨ended, same⟩
    have whole := run_stop_offset run
    rw [ended] at whole
    cases whole
    exact ⟨pieces, run, same⟩
  · rintro ⟨others, other, same⟩
    obtain ⟨rfl, rfl⟩ := run_unique run other
    exact ⟨rfl, same⟩

theorem decodeWindow_error_iff (policy : Policy) (start : Nat) (window : List UInt8)
    (error : DecodeError) :
    (decodeWindow policy start window).result = .error error ↔
      ∃ pieces position, Run policy start false window pieces (some position) ∧
        DecodeError.malformed? policy position = some error := by
  obtain ⟨pieces, stopped, run⟩ := run_exists policy start false window
  rw [decodeWindow_run run, conclude_error_iff]
  constructor
  · intro failed
    cases stopped with
    | none => cases failed
    | some position =>
        rw [Option.bind_some, stopAt_error] at failed
        exact ⟨pieces, position, run, failed⟩
  · rintro ⟨others, position, other, malformed⟩
    obtain ⟨_, rfl⟩ := run_unique run other
    rw [Option.bind_some, stopAt_error, malformed]

theorem within_iff (span : Span) (length : Nat) :
    span.placement length = .within ↔ span.start ≤ span.stop ∧ span.stop ≤ length := by
  unfold Span.placement
  constructor
  · intro placed
    split at placed
    · cases placed
    split at placed
    · cases placed
    split at placed
    · cases placed
    · omega
  · rintro ⟨ordered, inside⟩
    rw [if_neg (by omega), if_neg (by omega), if_neg (by omega)]

theorem within_placed {Value : Type} (buffer : List UInt8) (span : Span)
    (run : Nat → List UInt8 → Traced Value)
    (placed : span.start ≤ span.stop ∧ span.stop ≤ buffer.length) :
    within buffer span run = run span.start (span.window buffer) := by
  rw [← within_iff] at placed
  simp only [within, slice, placed]

theorem decode_placed (buffer : List UInt8) (span : Span) (policy : Policy)
    (placed : span.start ≤ span.stop ∧ span.stop ≤ buffer.length) :
    decode buffer span policy =
      (decodeWindow policy span.start (span.window buffer)).result := by
  rw [decode, decodeTraced, within_placed buffer span _ placed]

theorem decode_ok_iff (buffer : List UInt8) (span : Span) (policy : Policy)
    (points : List CodePoint) :
    decode buffer span policy = .ok points ↔
      (span.start ≤ span.stop ∧ span.stop ≤ buffer.length) ∧
        (decodeWindow policy span.start (span.window buffer)).result = .ok points := by
  rw [← within_iff]
  simp only [decode, decodeTraced, within, slice]
  cases span.placement buffer.length <;> simp

theorem window_whole (bytes : List UInt8) : Span.window ⟨0, bytes.length⟩ bytes = bytes := by
  simp [Span.window]

theorem decodeAll_window (bytes : List UInt8) (policy : Policy) :
    decodeAll bytes policy = (decodeWindow policy 0 bytes).result := by
  rw [decodeAll, decode_placed _ _ _ ⟨Nat.zero_le _, Nat.le_refl _⟩, window_whole]

/-- What a strict policy reads is the row of the bytes of admitted code points. -/
theorem strict_ok_iff (strict : policy ≠ .replace) (start : Nat) (window : List UInt8)
    (points : List CodePoint) :
    (decodeWindow policy start window).result = .ok points ↔
      window = points.flatMap CodePoint.bytes ∧ Admitted policy false points := by
  rw [decodeWindow_ok_iff]
  constructor
  · rintro ⟨pieces, run, rfl⟩
    exact run_admitted strict run
  · rintro ⟨rfl, admitted⟩
    exact admitted_run policy start false points admitted

theorem decode_strict_iff (buffer : List UInt8) (span : Span) (policy : Policy)
    (points : List CodePoint) (strict : policy ≠ .replace) :
    decode buffer span policy = .ok points ↔
      (span.start ≤ span.stop ∧ span.stop ≤ buffer.length) ∧
        span.window buffer = points.flatMap CodePoint.bytes ∧ Admitted policy false points := by
  rw [decode_ok_iff, strict_ok_iff strict]

theorem decodeAll_admitted (policy : Policy) (points : List CodePoint)
    (admitted : Admitted policy false points) :
    decodeAll (points.flatMap CodePoint.bytes) policy = .ok points := by
  rw [decodeAll_window, decodeWindow_ok_iff]
  exact admitted_run policy 0 false points admitted

end Decoding
end Wobbly
