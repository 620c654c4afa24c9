import Wobbly.Command.Words
import Wobbly.Decoding
import Wobbly.Encoding
import Wobbly.Text.Escape

/-! Running a command, and how a whole run of the program ends. The outcome of a command
is the text to print or the failure to report, together with the events of the run in
the order they happened: the course of a run is told at debug, every single replaced
byte at trace.

The report of a failure keeps two columns free at the right, and its help text continues
under its own start. A run ends with an exit code and with what it wrote to the two
standard streams. Output and log never mix, since the log goes to the error stream. -/
namespace Wobbly

namespace Log

inductive Event where
  | started (invocation : Invocation)
  | running (command : Command)
  | reading (notice : Notice)
  | reporting (width : Nat)
  | stopped
  deriving DecidableEq

namespace Event

def level : Event → Level
  | .reading (.replaced _ _) => .trace
  | _ => .debug

def source : Event → String
  | .started _ | .stopped => "wtf8"
  | .running _ => "r3bl_wtf8::cli::run"
  | .reading _ => "r3bl_wtf8::codec::decoder"
  | .reporting _ => "r3bl_wtf8::log::miette_setup_global_report_handler"

def content : Event → String
  | .started invocation => "Start logging... cli_args " ++ invocation.describe
  | .running command => "running command=" ++ command.describe
  | .reading (.replaced offset byte) =>
    s!"replacing malformed byte offset={offset} byte={byte.toNat}"
  | .reading (.failed policy offset error) =>
    s!"decode failed policy={policy.name} offset={offset} error={error.diagnosis.message}"
  | .reporting width => s!"miette::set_hook -> terminal_width: {width}"
  | .stopped => "Stop logging..."

def line (event : Event) : String := s!"{event.level.tag} {event.source}: {event.content}"

def shownAt (level : Level) (event : Event) : Bool := decide (event.level.rank ≤ level.rank)

end Event

def lines (level : Level) (events : List Event) : List String :=
  (events.filter (Event.shownAt level)).map Event.line

end Log

namespace Command

structure Outcome where
  result : Except Failure String
  events : List Log.Event

def ofTraced {Value : Type} (traced : Traced Value) (render : Value → String) : Outcome :=
  { result := (traced.result.map render).mapError .decode
    events := traced.notices.map .reading }

def showPoints (points : List CodePoint) : String :=
  "code points: " ++ .ofList (Sequence.labelled points) ++ "\ntext: " ++ Sequence.lossyText points

def encodeText (text : String) (policy : Policy) : Except Failure String :=
  match Text.Escape.read text with
  | .error cause => .error (.escape cause)
  | .ok points =>
    match Encoding.encodeUnder policy points with
    | .error cause => .error (.encode cause)
    | .ok bytes => .ok (Text.HexText.write bytes)

def perform : Command → Outcome
  | .decode bytes policy start stop =>
    let span := Span.ofEnds bytes.length (some start) stop
    ofTraced (Decoding.decodeTraced bytes span policy) showPoints
  | .encode text policy => ⟨encodeText text policy, []⟩
  | .validate bytes policy =>
    ofTraced (Decoding.validateTraced bytes ⟨0, bytes.length⟩ policy) fun () =>
      "valid under " ++ policy.name

/-- Runs a command. It is announced first, and a failure asks for the width of
the terminal that its report will be filled to. -/
def run (terminal : Nat) (command : Command) : Outcome :=
  let outcome := command.perform
  let closing := match outcome.result with
    | .ok _ => []
    | .error _ => [Log.Event.reporting terminal]
  { outcome with events := .running command :: outcome.events ++ closing }

end Command

namespace Report

def defaultWidth : Nat := 80

/-- The width of the terminal from the text that announces it, if that is a
positive number. -/
def terminalWidth (columns : Option String) : Nat :=
  match columns with
  | none => defaultWidth
  | some text =>
    match Text.Numeral.read Text.Numeral.wordLimit (Text.trimBlanks text.toList) with
    | .ok width => if width = 0 then defaultWidth else width
    | .error _ => defaultWidth

def contact : String := "https://github.com/r3bl-org/r3bl-open-core/issues/new"

def lines (terminal : Nat) (diagnosis : Diagnosis) : List String :=
  let width := terminal - 2
  [diagnosis.code, ""]
    ++ Text.Fill.fill width "  × " "  │ " diagnosis.message
    ++ Text.Fill.fill width "  help: " "        " diagnosis.help
    ++ ["", "  " ++ contact]

end Report

inductive Ending where
  | helped (exitCode : Nat)
  | finished (exitCode : Nat) (output : String) (errors : List String)
  deriving DecidableEq

namespace Ending

def ofUsage (usage : Command.Usage) : Ending :=
  match usage.streamed? with
  | none => .helped usage.exitCode
  | some message =>
    if usage.exitCode = 0 then .finished 0 (message ++ "\n") []
    else .finished usage.exitCode "" [message]

def announce : List String → List String
  | [] => []
  | first :: rest => ("Error: " ++ first) :: rest ++ [""]

def ofInvocation (terminal : Nat) (invocation : Invocation) : Ending :=
  let outcome := invocation.command.run terminal
  let begun := .started invocation :: outcome.events
  match outcome.result with
  | .ok output =>
    .finished 0 (output ++ "\n") (Log.lines invocation.level (begun ++ [.stopped]))
  | .error failure =>
    .finished 1 "" (Log.lines invocation.level begun
      ++ announce (Report.lines terminal failure.diagnosis))

def ofWords (columns : Option String) (words : List String) : Ending :=
  match Command.read words with
  | .error usage => ofUsage usage
  | .ok invocation => ofInvocation (Report.terminalWidth columns) invocation

end Ending
end Wobbly
