import Wobbly.CodePoint

/-! Reading a window of bytes from left to right, and decoding and validating the bytes
inside a span that way. Every step either keeps the code point in front, replaces one
single byte, or stops. The only thing a step remembers of the past is whether the code
point before it was a lead: a trail right behind it would be a pair in disguise, which
has a form of its own.

Decoding keeps the code points of a walk, validating only what the log has to say.
Offsets always count from the start of the whole buffer. -/
namespace Wobbly

/-- What a step leaves behind, with the offset of its first byte. -/
inductive Piece where
  | kept (offset : Nat) (point : CodePoint)
  | replaced (offset : Nat) (byte : UInt8)
  deriving DecidableEq

def Piece.point : Piece → CodePoint
  | .kept _ point => point
  | .replaced _ _ => .replacement

structure Stop where
  offset : Nat
  error : DecodeError
  deriving DecidableEq

namespace Reading
variable {State : Type}

inductive Step where
  | keep (found : Scanned)
  | replace
  | stop (stop : Stop)
  deriving DecidableEq

/-- Whether a code point may stand where it was found. -/
def welcome (policy : Policy) (afterLead : Bool) (point : CodePoint) : Bool :=
  !point.isSurrogate || (policy == .accept && !(afterLead && point.isTrail))

-- The byte at `offset` starts nothing welcome. It is replaced unless the policy has an
-- error for it.
def refusal (policy : Policy) (offset : Nat) : Step :=
  match DecodeError.malformed? policy offset with
  | some error => .stop ⟨offset, error⟩
  | none => .replace

def step (policy : Policy) (offset : Nat) (afterLead : Bool) (window : List UInt8) : Step :=
  match Scan.front? window with
  | some found =>
    if welcome policy afterLead found.point then .keep found else refusal policy offset
  | none => refusal policy offset

/-- Hands the pieces of a window to `visit` in order. Without a stop as the second
result the window was used up. -/
def walk (policy : Policy) (visit : State → Piece → State) (state : State) (offset : Nat)
    (afterLead : Bool) (window : List UInt8) : State × Option Stop :=
  match window with
  | [] => (state, none)
  | byte :: rest =>
    match step policy offset afterLead (byte :: rest) with
    | .keep found =>
      walk policy visit (visit state (.kept offset found.point)) (offset + found.width)
        found.point.isLead (rest.drop (found.width - 1))
    | .replace => walk policy visit (visit state (.replaced offset byte)) (offset + 1) false rest
    | .stop stop => (state, some stop)
termination_by window.length
decreasing_by all_goals simp only [List.length_drop, List.length_cons]; omega

end Reading

inductive Notice where
  | replaced (offset : Nat) (byte : UInt8)
  | failed (policy : Policy) (offset : Nat) (error : DecodeError)
  deriving DecidableEq

structure Traced (Value : Type) where
  result : Except DecodeError Value
  notices : List Notice

namespace Decoding
variable {Value : Type}

def slice (buffer : List UInt8) (span : Span) : Except DecodeError (List UInt8) :=
  match span.placement buffer.length with
  | .within => .ok (span.window buffer)
  | _ => .error (.outOfBounds span buffer.length)

-- Visitors collect notices and code points latest first; `conclude` and `decodeWindow`
-- put them in order.
def note (notices : List Notice) : Piece → List Notice
  | .kept _ _ => notices
  | .replaced offset byte => .replaced offset byte :: notices

def collect (seen : List CodePoint × List Notice) (piece : Piece) :
    List CodePoint × List Notice := (piece.point :: seen.1, note seen.2 piece)

def conclude (policy : Policy) (value : Value) (notices : List Notice) (stopped : Option Stop) :
    Traced Value :=
  match stopped with
  | some stop =>
    ⟨.error stop.error, (Notice.failed policy stop.offset stop.error :: notices).reverse⟩
  | none => ⟨.ok value, notices.reverse⟩

def decodeWindow (policy : Policy) (start : Nat) (window : List UInt8) :
    Traced (List CodePoint) :=
  let ((points, notices), stopped) := Reading.walk policy collect ([], []) start false window
  conclude policy points.reverse notices stopped

def validateWindow (policy : Policy) (start : Nat) (window : List UInt8) : Traced Unit :=
  let (notices, stopped) := Reading.walk policy note [] start false window
  conclude policy () notices stopped

/-- Runs on the bytes inside a span. A misplaced span fails without a notice. -/
def within (buffer : List UInt8) (span : Span) (run : Nat → List UInt8 → Traced Value) :
    Traced Value :=
  match slice buffer span with
  | .error error => ⟨.error error, []⟩
  | .ok window => run span.start window

def decodeTraced (buffer : List UInt8) (span : Span) (policy : Policy) : Traced (List CodePoint) :=
  within buffer span (decodeWindow policy)

def validateTraced (buffer : List UInt8) (span : Span) (policy : Policy) : Traced Unit :=
  within buffer span (validateWindow policy)

def decode (buffer : List UInt8) (span : Span) (policy : Policy) :
    Except DecodeError (List CodePoint) := (decodeTraced buffer span policy).result

def validate (buffer : List UInt8) (span : Span) (policy : Policy) : Except DecodeError Unit :=
  (validateTraced buffer span policy).result

def decodeAll (buffer : List UInt8) (policy : Policy) : Except DecodeError (List CodePoint) :=
  decode buffer ⟨0, buffer.length⟩ policy

end Decoding
end Wobbly
