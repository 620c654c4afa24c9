import Wobbly.CodePoint

/-! Where log lines go, and how many of them. Levels reach from silence to everything; a
level may be given by its name or by its rank, and the empty text asks for errors only.
The standard error stream is the usual sink, so that the output of a command stays clean.

A sink in memory collects bytes from every handle that shares it, and its contents are
read as text even if a write broke off inside a character: a run of bytes that starts a
well-formed sequence and breaks off becomes one replacement character, and so does a
byte that cannot start a sequence. Surrogates have no well-formed sequence here. -/
namespace Wobbly

namespace Text.Repair

/-- The bytes that may follow a lead as its second byte, and the full width. -/
def second? (lead : Nat) : Option (Nat × Nat × Nat) :=
  if 0xC2 ≤ lead ∧ lead ≤ 0xDF then some (0x80, 0xBF, 2)
  else if lead = 0xE0 then some (0xA0, 0xBF, 3)
  else if lead = 0xED then some (0x80, 0x9F, 3)
  else if 0xE1 ≤ lead ∧ lead ≤ 0xEF then some (0x80, 0xBF, 3)
  else if lead = 0xF0 then some (0x90, 0xBF, 4)
  else if 0xF1 ≤ lead ∧ lead ≤ 0xF3 then some (0x80, 0xBF, 4)
  else if lead = 0xF4 then some (0x80, 0x8F, 4)
  else none

def damagedTail (lead : UInt8) (rest : List UInt8) : Nat :=
  match second? lead.toNat, rest with
  | some (low, high, width), second :: more =>
    if low ≤ second.toNat ∧ second.toNat ≤ high then
      1 + ((more.take (width - 2)).takeWhile isContinuation).length
    else 0
  | _, _ => 0

def front? (bytes : List UInt8) : Option (Char × Nat) :=
  match Scan.front? bytes with
  | none => none
  | some found => found.point.char?.map fun char => (char, found.width)

def chars (bytes : List UInt8) : List Char :=
  match bytes with
  | [] => []
  | lead :: rest =>
    match front? (lead :: rest) with
    | some (char, width) => char :: chars (rest.drop (width - 1))
    | none => '\uFFFD' :: chars (rest.drop (damagedTail lead rest))
termination_by bytes.length
decreasing_by all_goals simp only [List.length_drop, List.length_cons]; omega

def text (bytes : List UInt8) : String := .ofList (chars bytes)

end Text.Repair

namespace Log

inductive Level where
  | off
  | error
  | warn
  | info
  | debug
  | trace
  deriving DecidableEq

namespace Level

def all : List Level := [.off, .error, .warn, .info, .debug, .trace]

def name : Level → String
  | .off => "off"
  | .error => "error"
  | .warn => "warn"
  | .info => "info"
  | .debug => "debug"
  | .trace => "trace"

def tag (level : Level) : String := level.name.map Char.toUpper

def rank : Level → Nat
  | .off => 0
  | .error => 1
  | .warn => 2
  | .info => 3
  | .debug => 4
  | .trace => 5

def ofRank? (text : String) : Option Level :=
  match Text.Numeral.read Text.Numeral.wordLimit text.toList with
  | .ok rank => all[rank]?
  | .error _ => none

def ofName? (text : String) : Option Level :=
  let folded := text.toList.map Char.toLower
  all.find? fun level => level.name.toList == folded

def ofText? (text : String) : Option Level :=
  if text.isEmpty then some .error else (ofRank? text).or (ofName? text)

def unknownMessage : String :=
  "error parsing level filter: expected one of \"off\", \"error\", \"warn\", \"info\", "
    ++ "\"debug\", \"trace\", or a number 0-5"

end Level

inductive Display where
  | stdout
  | stderr
  | buffer
  deriving DecidableEq

inductive Layer where
  | filter (level : Level)
  | display (level : Level) (target : Display)
  deriving DecidableEq

structure Setup where
  level : Level
  display : Display := .stderr
  deriving DecidableEq

def Setup.layers (setup : Setup) : List Layer :=
  [.filter setup.level, .display setup.level setup.display]

-- A log that shows nothing needs no layer in place.
def Setup.installed (setup : Setup) : List Layer :=
  match setup.level with
  | .off => []
  | _ => setup.layers

structure Buffer where
  bytes : List UInt8 := []
  deriving DecidableEq

def Buffer.write (buffer : Buffer) (chunk : List UInt8) : Buffer × Nat :=
  (⟨buffer.bytes ++ chunk⟩, chunk.length)

def Buffer.contents (buffer : Buffer) : String := Text.Repair.text buffer.bytes

end Log
end Wobbly
