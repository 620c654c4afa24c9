import Wobbly.Log.Sink
import Wobbly.Text.Terminal

/-! The commands of the command line, and what may stand there to ask for one. A command
has every option settled, and it is described in full at the start of its log. The top
level takes the log level and a command; every command takes the log level again, and
options of its own. Options have a value, flags do not.

A command line that leads to no command has a reason. Asking for help or for the version
is among the reasons, although it is no mistake. Messages are one line of plain text,
whatever the words that they quote. -/
namespace Wobbly

inductive Command where
  | decode (bytes : List UInt8) (policy : Policy) (start : Nat) (stop : Option Nat)
  | encode (text : String) (policy : Policy)
  | validate (bytes : List UInt8) (policy : Policy)
  deriving DecidableEq

structure Invocation where
  command : Command
  level : Log.Level
  deriving DecidableEq

def describeRecord (name : String) (fields : List (String × String)) : String :=
  let shown := fields.map fun field => field.1 ++ ": " ++ field.2
  name ++ " \x7b " ++ ", ".intercalate shown ++ " \x7d"

def describeBytes (bytes : List UInt8) : String :=
  "HexBytes([" ++ ", ".intercalate (bytes.map fun byte => toString byte.toNat) ++ "])"

def describePolicy : Policy → String
  | .accept => "Accept"
  | .reject => "Reject"
  | .replace => "Replace"

def describeOptional : Option Nat → String
  | some value => "Some(" ++ toString value ++ ")"
  | none => "None"

def Command.describe : Command → String
  | .decode bytes policy start stop =>
    describeRecord "Decode" [("hex", describeBytes bytes), ("policy", describePolicy policy),
      ("start", toString start), ("end", describeOptional stop)]
  | .encode text policy =>
    describeRecord "Encode" [("text", Text.Quoted.text text), ("policy", describePolicy policy)]
  | .validate bytes policy =>
    describeRecord "Validate" [("hex", describeBytes bytes), ("policy", describePolicy policy)]

def Invocation.describe (invocation : Invocation) : String :=
  let options := describeRecord "GlobalOption"
    [("log_level", "LevelFilter::" ++ invocation.level.tag)]
  describeRecord "CLIArg" [("command", invocation.command.describe), ("global_options", options)]

namespace Command

inductive Setting where
  | hex
  | policy
  | start
  | stop
  | level
  deriving DecidableEq

namespace Setting

def long : Setting → String
  | .hex => "hex"
  | .policy => "policy"
  | .start => "start"
  | .stop => "end"
  | .level => "log-level"

def short? : Setting → Option Char
  | .policy => some 'p'
  | .level => some 'l'
  | .hex | .start | .stop => none

def usage : Setting → String
  | .hex => "--hex <HEX>"
  | .policy => "--policy <POLICY>"
  | .start => "--start <START>"
  | .stop => "--end <END>"
  | .level => "--log-level <LOG_LEVEL>"

end Setting

inductive Flag where
  | help
  | version
  deriving DecidableEq

namespace Flag

def long : Flag → String
  | .help => "help"
  | .version => "version"

def short : Flag → Char
  | .help => 'h'
  | .version => 'V'

end Flag

inductive Scope where
  | top
  | decode
  | encode
  | validate
  deriving DecidableEq

namespace Scope

def settings : Scope → List Setting
  | .top => [.level]
  | .decode => [.hex, .policy, .start, .stop, .level]
  | .encode => [.policy, .level]
  | .validate => [.hex, .policy, .level]

def flags : Scope → List Flag
  | .top => [.help, .version]
  | .decode | .encode | .validate => [.help]

def takesText : Scope → Bool
  | .encode => true
  | .top | .decode | .validate => false

def ofWord? : String → Option Scope
  | "decode" => some .decode
  | "encode" => some .encode
  | "validate" => some .validate
  | _ => none

def longSetting? (scope : Scope) (name : String) : Option Setting :=
  scope.settings.find? fun setting => setting.long == name

def shortSetting? (scope : Scope) (letter : Char) : Option Setting :=
  scope.settings.find? fun setting => setting.short? == some letter

def longFlag? (scope : Scope) (name : String) : Option Flag :=
  scope.flags.find? fun flag => flag.long == name

def shortFlag? (scope : Scope) (letter : Char) : Option Flag :=
  scope.flags.find? fun flag => flag.short == letter

end Scope

inductive Usage where
  | help
  | helpForNothing
  | version
  | missingCommand
  | unknownCommand (word : String)
  | missingArguments
  | unexpected (word : String)
  | repeated (setting : Setting)
  | missingValue (setting : Setting)
  | invalidValue (setting : Setting) (value reason : String)
  | surplusValue (flag : Flag) (value : String)
  deriving DecidableEq

namespace Usage

def programName : String := "wtf8"

def versionLine : String := "r3bl_wtf8 0.1.0"

def summary : String :=
  "usage: wtf8 [-l LEVEL] COMMAND\n"
    ++ "  decode --hex HEX [-p POLICY] [--start N] [--end N]\n"
    ++ "  encode TEXT [-p POLICY]\n"
    ++ "  validate --hex HEX [-p POLICY]"

def exitCode : Usage → Nat
  | .help | .version => 0
  | _ => 2

def complaint? (plain : String → String) : Usage → Option String
  | .help | .helpForNothing | .version => none
  | .missingCommand => s!"'{programName}' requires a subcommand but one was not provided"
  | .unknownCommand word => s!"unrecognized subcommand '{plain word}'"
  | .missingArguments => "the following required arguments were not provided:"
  | .unexpected word => s!"unexpected argument '{plain word}' found"
  | .repeated setting => s!"the argument '{setting.usage}' cannot be used multiple times"
  | .missingValue setting => s!"a value is required for '{setting.usage}' but none was supplied"
  | .invalidValue setting value reason =>
    s!"invalid value '{plain value}' for '{setting.usage}': {reason}"
  | .surplusValue flag value =>
    s!"unexpected value '{plain value}' for '--{flag.long}' found; no more were expected"

def lineWith? (plain : String → String) (usage : Usage) : Option String :=
  match usage with
  | .version => some versionLine
  | _ => (usage.complaint? plain).map fun complaint =>
    Text.Plain.firstLine ("error: " ++ complaint)

def message? (usage : Usage) : Option String := usage.lineWith? (Text.Plain.shown .dropped)

/-- The line as a stream receives it. A stream passes bytes on as they come, so
a sequence that was cut into is not forgotten. -/
def streamed? (usage : Usage) : Option String := usage.lineWith? (Text.Plain.shown .resumed)

end Usage

end Command
end Wobbly
