import Wobbly.Decoding
import Wobbly.Encoding
import Wobbly.Text.Escape

/-! A session holds a sequence of code points and a segment of bytes, both
empty at first. Actions extend one of them or carry one over into the other.
An action that fails leaves both as they were. -/
namespace Wobbly

structure Session where
  points : List CodePoint := []
  segment : List UInt8 := []
  deriving DecidableEq

namespace Session

inductive Action where
  | push (value : Nat)
  | pushText (text : String)
  | pushEscaped (text : String)
  | pushUnits (units : List UInt16)
  | normalize
  | clear
  | clearSegment
  | append (bytes : List UInt8)
  | read (policy : Policy) (start stop : Option Nat)
  | write (policy : Policy)
  | check (policy : Policy) (start stop : Option Nat)
  | scan (position : Nat)
  | segment

inductive Answer where
  | state
  | written (bytes : List UInt8)
  | valid
  | scanned (found : Option Scanned)
  | segment
  | failed (failure : Failure)
  deriving DecidableEq

variable (session : Session)

def extend (points : List CodePoint) : Session :=
  { session with points := session.points ++ points }

def spanOf (start stop : Option Nat) : Span := Span.ofEnds session.segment.length start stop

def step : Action → Session × Answer
  | .push value =>
    match CodePoint.check value with
    | .ok point => (session.extend [point], .state)
    | .error cause => (session, .failed (.range cause))
  | .pushText text => (session.extend (Sequence.ofText text), .state)
  | .pushEscaped text =>
    match Text.Escape.read text with
    | .ok points => (session.extend points, .state)
    | .error cause => (session, .failed (.escape cause))
  | .pushUnits units => (session.extend (Units.join units), .state)
  | .normalize => ({ session with points := Units.normalize session.points }, .state)
  | .clear => ({ session with points := [] }, .state)
  | .clearSegment => ({ session with segment := [] }, .state)
  | .append bytes => ({ session with segment := session.segment ++ bytes }, .state)
  | .read policy start stop =>
    match Decoding.decode session.segment (session.spanOf start stop) policy with
    | .ok points => ({ session with points := points }, .state)
    | .error cause => (session, .failed (.decode cause))
  | .write policy =>
    match Encoding.encodeUnder policy session.points with
    | .ok bytes => ({ session with segment := session.segment ++ bytes }, .written bytes)
    | .error cause => (session, .failed (.encode cause))
  | .check policy start stop =>
    match Decoding.validate session.segment (session.spanOf start stop) policy with
    | .ok () => (session, .valid)
    | .error cause => (session, .failed (.decode cause))
  | .scan position => (session, .scanned (Scan.at? session.segment position))
  | .segment => (session, .segment)

/-- Runs actions in order; every answer comes with the session right after it. -/
def run (session : Session) : List Action → Session × List (Session × Answer)
  | [] => (session, [])
  | action :: rest =>
    let (next, answer) := session.step action
    let (final, later) := run next rest
    (final, (next, answer) :: later)

end Session
end Wobbly
