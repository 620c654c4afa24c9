import Wobbly.Text.Digits

/-! What a request asks for, and how it can fail. A policy says what becomes of text
that strict encoding does not allow: accepting keeps unpaired surrogates, rejecting
refuses them, and replacing writes the replacement character instead of failing. A span
is a half-open range of positions.

Every failure keeps its cause whole. Its diagnosis tells a reader a stable code to
search for, one line on what went wrong, and a hint on what to do about it. -/
namespace Wobbly

inductive Policy where
  | accept
  | reject
  | replace
  deriving DecidableEq

namespace Policy

def name : Policy → String
  | .accept => "accept"
  | .reject => "reject"
  | .replace => "replace"

-- A policy may be called by its own name or by the encoding it stands for.
def spellings : List (String × Policy) :=
  [("accept", .accept), ("wtf8", .accept),
    ("reject", .reject), ("utf8", .reject),
    ("replace", .replace), ("utf8-sloppy", .replace)]

def ofText? (text : String) : Option Policy :=
  let folded := text.toList.map Char.toLower
  (spellings.find? fun spelling => spelling.1.toList == folded).map Prod.snd

def unknownMessage : String := "Matching variant not found"

def initial : Policy := .accept

end Policy

structure Span where
  start : Nat
  stop : Nat
  deriving DecidableEq

inductive Placement where
  | within
  | startBeyond
  | stopBeyond
  | reversed
  deriving DecidableEq

namespace Span
variable {Item : Type}

-- The order of the tests decides which position a misplaced span is blamed for.
def placement (span : Span) (length : Nat) : Placement :=
  if length < span.start then .startBeyond
  else if length < span.stop then .stopBeyond
  else if span.stop < span.start then .reversed
  else .within

/-- The span of a whole buffer, with given ends in place of its own. -/
def ofEnds (length : Nat) (start stop : Option Nat) : Span :=
  ⟨start.getD 0, stop.getD length⟩

def window (span : Span) (items : List Item) : List Item :=
  (items.drop span.start).take (span.stop - span.start)

def blamed (span : Span) (length : Nat) : Nat :=
  match span.placement length with
  | .stopBeyond => length
  | _ => span.start

def describe (span : Span) (length : Nat) : String :=
  s!"{span.start}..{span.stop} of {length}"

end Span

structure Diagnosis where
  code : String
  message : String
  help : String
  deriving DecidableEq

structure OutOfRange where
  value : Nat
  deriving DecidableEq

def OutOfRange.diagnosis (error : OutOfRange) : Diagnosis :=
  { code := "r3bl_wtf8::code_point::out_of_range"
    message := "code point 0x" ++ .ofList (Text.Hex.numeral error.value) ++ " is above U+10FFFF"
    help := "Unicode code points are in the range 0x0..=0x10FFFF" }

inductive EncodeError where
  | unpairedSurrogate (position : Nat)
  deriving DecidableEq

def EncodeError.diagnosis : EncodeError → Diagnosis
  | .unpairedSurrogate _ =>
    { code := "r3bl_wtf8::encode::unpaired_surrogate"
      message := "string contains an unpaired surrogate"
      help := "strict UTF-8 cannot represent surrogates, encode as WTF-8 instead" }

inductive DecodeError where
  | invalidWtf8 (offset : Nat)
  | invalidUtf8 (offset : Nat)
  | outOfBounds (span : Span) (length : Nat)
  deriving DecidableEq

namespace DecodeError

/-- The error of a policy at an unreadable byte; replacing has none. -/
def malformed? (policy : Policy) (offset : Nat) : Option DecodeError :=
  match policy with
  | .accept => some (.invalidWtf8 offset)
  | .reject => some (.invalidUtf8 offset)
  | .replace => none

def offset : DecodeError → Nat
  | .invalidWtf8 offset => offset
  | .invalidUtf8 offset => offset
  | .outOfBounds span length => span.blamed length

def diagnosis : DecodeError → Diagnosis
  | .invalidWtf8 _ =>
    { code := "r3bl_wtf8::decode::invalid_wtf8"
      message := "invalid WTF-8 string"
      help := "retry with the `replace` policy to substitute U+FFFD for malformed bytes" }
  | .invalidUtf8 _ =>
    { code := "r3bl_wtf8::decode::invalid_utf8"
      message := "invalid UTF-8 string"
      help := "use the `accept` policy to keep unpaired surrogates, or `replace` to "
        ++ "substitute U+FFFD" }
  | .outOfBounds _ _ =>
    { code := "r3bl_wtf8::decode::out_of_bounds"
      message := "array element access out of bounds"
      help := "the range must satisfy start <= end <= buffer length" }

end DecodeError

inductive Text.EscapeError where
  | unterminated (offset : Nat)
  | invalidDigits (digits : String)
  | outOfRange (error : OutOfRange)
  deriving DecidableEq

def Text.EscapeError.diagnosis : Text.EscapeError → Diagnosis
  | .unterminated offset =>
    { code := "r3bl_wtf8::cli::unterminated_escape"
      message := "unterminated `\\u\x7b` escape at byte " ++ toString offset
      help := "close the escape with a brace, eg: `\\u\x7bD800\x7d`" }
  | .invalidDigits digits =>
    { code := "r3bl_wtf8::cli::invalid_escape"
      message := "`" ++ digits ++ "` is not a hex number"
      help := "escapes hold 1 to 6 hex digits, eg: `\\u\x7b1F600\x7d`" }
  | .outOfRange error => error.diagnosis

inductive Failure where
  | range (cause : OutOfRange)
  | decode (cause : DecodeError)
  | encode (cause : EncodeError)
  | escape (cause : Text.EscapeError)
  deriving DecidableEq

def Failure.diagnosis : Failure → Diagnosis
  | .range cause => cause.diagnosis
  | .decode cause => cause.diagnosis
  | .encode cause => cause.diagnosis
  | .escape cause => cause.diagnosis

end Wobbly
