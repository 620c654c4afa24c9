import Wobbly.Command

/-! Reading the words of a command line from left to right. A value given as a word of
its own stays pending and is judged only when the next known option, the text or the end
is met; an unknown word wins over whatever is still pending. A value attached to its
option is judged at once. Every option has one slot and may fill it once. The slots that
a command cannot do without are asked for last. -/
namespace Wobbly.Command

structure Given where
  hex : Option (List UInt8) := none
  policy : Option Policy := none
  start : Option Nat := none
  stop : Option Nat := none
  level : Option Log.Level := none
  text : Option String := none
  deriving DecidableEq

namespace Given

def readBytes (text : String) : Except String (List UInt8) :=
  (Text.HexText.read text).mapError Text.HexText.ReadError.message

def readPolicy (text : String) : Except String Policy :=
  match Policy.ofText? text with
  | some policy => .ok policy
  | none => .error Policy.unknownMessage

def readPosition (text : String) : Except String Nat :=
  (Text.Numeral.read Text.Numeral.wordLimit text.toList).mapError Text.NumeralError.message

def readLevel (text : String) : Except String Log.Level :=
  match Log.Level.ofText? text with
  | some level => .ok level
  | none => .error Log.Level.unknownMessage

/-- Fills an empty slot. A filled one is a repetition, whatever the value. -/
def fill {Value : Type} (setting : Setting) (slot : Option Value)
    (read : String → Except String Value) (text : String) : Except Usage (Option Value) :=
  if slot.isSome then .error (.repeated setting)
  else
    match read text with
    | .ok value => .ok (some value)
    | .error reason => .error (.invalidValue setting text reason)

def assign (given : Given) (setting : Setting) (text : String) : Except Usage Given :=
  match setting with
  | .hex => do return { given with hex := ← fill .hex given.hex readBytes text }
  | .policy => do return { given with policy := ← fill .policy given.policy readPolicy text }
  | .start => do return { given with start := ← fill .start given.start readPosition text }
  | .stop => do return { given with stop := ← fill .stop given.stop readPosition text }
  | .level => do return { given with level := ← fill .level given.level readLevel text }

def command? (given : Given) : Scope → Option Command
  | .top => none
  | .decode => given.hex.map fun bytes =>
    .decode bytes (given.policy.getD .initial) (given.start.getD 0) given.stop
  | .encode => given.text.map fun text => .encode text (given.policy.getD .initial)
  | .validate => given.hex.map fun bytes => .validate bytes (given.policy.getD .initial)

end Given

inductive Pending where
  | option (setting : Setting) (value : Option String)
  | text (value : String)
  deriving DecidableEq

structure Progress where
  given : Given := {}
  pending : Option Pending := none
  literal : Bool := false
  deriving DecidableEq

namespace Progress
variable (progress : Progress)

def settle : Except Usage Progress :=
  match progress.pending with
  | none => .ok progress
  | some (.text value) =>
    .ok { progress with pending := none, given := { progress.given with text := some value } }
  | some (.option setting none) => .error (.missingValue setting)
  | some (.option setting (some value)) => do
    let given ← progress.given.assign setting value
    return { progress with pending := none, given := given }

def awaited : Option Setting :=
  match progress.pending with
  | some (.option setting none) => if progress.literal then none else some setting
  | _ => none

def hasText : Bool :=
  progress.given.text.isSome ||
    match progress.pending with
    | some (.text _) => true
    | _ => false

def option (setting : Setting) (value : Option String) : Except Usage Progress := do
  let settled ← progress.settle
  match value with
  | none => return { settled with pending := some (.option setting none) }
  | some text =>
    let given ← settled.given.assign setting text
    return { settled with given := given }

def flag (flag : Flag) : Except Usage Progress := do
  let _ ← progress.settle
  match flag with
  | .help => throw .help
  | .version => throw .version

end Progress

inductive Word where
  | terminator
  | long (name : String) (value : Option String)
  | short (letter : Char) (value : Option String)
  | plain

namespace Word

def longOf (body : List Char) : Word :=
  let name := String.ofList (body.takeWhile (· ≠ '='))
  match body.dropWhile (· ≠ '=') with
  | [] => .long name none
  | _ :: value => .long name (some (.ofList value))

def shortOf (letter : Char) : List Char → Word
  | [] => .short letter none
  | '=' :: value => .short letter (some (.ofList value))
  | value => .short letter (some (.ofList value))

def ofText (text : String) : Word :=
  match text.toList with
  | ['-', '-'] => .terminator
  | '-' :: '-' :: body => longOf body
  | ['-'] => .plain
  | '-' :: letter :: rest => shortOf letter rest
  | _ => .plain

end Word

def isCommand (word : String) : Bool := (Scope.ofWord? word).isSome || word == "help"

def misplaced (scope : Scope) (literal : Bool) (word : String) : Usage :=
  match scope with
  | .top => if literal && isCommand word then .unexpected word else .unknownCommand word
  | _ => .unexpected word

def takePlain (scope : Scope) (progress : Progress) (word : String) : Except Usage Progress :=
  match progress.awaited with
  | some setting => .ok { progress with pending := some (.option setting (some word)) }
  | none =>
    if scope.takesText && !progress.hasText then do
      let settled ← progress.settle
      return { settled with pending := some (.text word) }
    else .error (misplaced scope progress.literal word)

def takeWord (scope : Scope) (progress : Progress) (word : String) : Except Usage Progress :=
  if progress.literal then takePlain scope progress word
  else
    match Word.ofText word with
    | .terminator => .ok { progress with literal := true }
    | .plain => takePlain scope progress word
    | .long name value =>
      match scope.longSetting? name, scope.longFlag? name, value with
      | some setting, _, _ => progress.option setting value
      | none, some flag, none => progress.flag flag
      | none, some flag, some text => .error (.surplusValue flag text)
      | none, none, _ => .error (.unexpected ("--" ++ name))
    | .short letter value =>
      match scope.shortSetting? letter, scope.shortFlag? letter with
      | some setting, _ => progress.option setting value
      | none, some flag => progress.flag flag
      | none, none => .error (.unexpected (.ofList ['-', letter]))

def explain : List String → Usage
  | [] => .help
  | word :: rest =>
    if isCommand word then
      match rest with
      | [] => .help
      | next :: _ => .unknownCommand next
    else .unknownCommand word

def takeTop : Progress → List String → Except Usage (Progress × Option (Scope × List String))
  | progress, [] => .ok (progress, none)
  | progress, word :: rest =>
    if !progress.literal && progress.awaited.isNone && isCommand word then
      match Scope.ofWord? word with
      | some scope => .ok (progress, some (scope, rest))
      | none => .error (explain rest)
    else do
      let next ← takeWord .top progress word
      takeTop next rest

def takeAll (scope : Scope) : Progress → List String → Except Usage Progress
  | progress, [] => progress.settle
  | progress, word :: rest => do
    let next ← takeWord scope progress word
    takeAll scope next rest

/-- The command on a command line. The log level behind the command wins over
the one in front of it, which is judged after the whole command was read. -/
def read (words : List String) : Except Usage Invocation := do
  let (progress, found) ← takeTop {} words
  match found with
  | none =>
    let settled ← progress.settle
    if settled.given.level.isSome then throw .missingCommand else throw .helpForNothing
  | some (scope, rest) =>
    let inner ← takeAll scope {} rest
    match inner.given.command? scope with
    | none => throw .missingArguments
    | some command =>
      let outer ← progress.settle
      return ⟨command, (inner.given.level.or outer.given.level).getD .off⟩

end Wobbly.Command
