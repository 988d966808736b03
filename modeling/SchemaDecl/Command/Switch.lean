import SchemaDecl.Text.Quoted
import SchemaDecl.Text.Similar

/-!
# Switches of the command line

A switch is named by one or more words and takes a value, or has a notice printed in place of any
work.  A switch that is not given can be set by an environment variable.  A name that is unknown is
reported together with those that are similar to it.
-/

namespace SchemaDecl.Command

/-- Something that can be set on the command line. -/
structure Switch where
  /-- The words for the switch, in the order in which messages list them. -/
  names : List String
  /-- The end of the name of its environment variable. -/
  variableName : String
  /-- What is printed at once.  A switch with a notice takes no value. -/
  notice : Option String := none
  deriving DecidableEq, Repr

namespace Switch

/-- Whether a switch takes a value. -/
def takesValue (switch : Switch) : Bool :=
  switch.notice.isNone

/-- The names of a switch in a message. -/
def hint (switch : Switch) : String :=
  " / ".intercalate (switch.names.map fun name => "'" ++ name ++ "'")

/-- Whether a word names a switch of two dashes. -/
def isLong (name : String) : Bool :=
  ['-', '-'].isPrefixOf name.toList

/-- The switch with a name. -/
def named? (switches : List Switch) (name : String) : Option Switch :=
  switches.find? fun switch => switch.names.contains name

/-- The names of two dashes that are similar to an unknown name of two dashes. -/
def similarTo (switches : List Switch) (name : String) : List String :=
  if isLong name then
    Text.closeTo name ((switches.flatMap fun switch => switch.names).filter isLong)
  else []

end Switch

/-- How the program is called. -/
def usage : String :=
  "Usage: sdlgen [OPTIONS] COMMAND [ARGS]...\n"

/-- The switch for the least level of events that are told. -/
def levelSwitch : Switch := { names := ["-l", "--log-level"], variableName := "LOG_LEVEL" }

/-- The switch for the file that events are written to. -/
def logFileSwitch : Switch := { names := ["--log-file"], variableName := "LOG_FILE" }

/-- The switch that asks for the version. -/
def versionSwitch : Switch :=
  { names := ["--version"], variableName := "VERSION", notice := some "sdlgen, version 0.1.0\n" }

/-- The switch that asks for help. -/
def helpSwitch : Switch :=
  { names := ["--help"], variableName := "HELP", notice := some usage }

/-- The switch for schema files and directories.  It can be given more than once. -/
def schemaSwitch : Switch := { names := ["--schema", "-s"], variableName := "SCHEMAS" }

/-- The switch for the file to write. -/
def outputSwitch : Switch := { names := ["--output", "-o"], variableName := "OUTPUT" }

/-- The switch for the settings file. -/
def configSwitch : Switch := { names := ["--config", "-c"], variableName := "CONFIG_PATH" }

/-- The switch for the namespace of the declarations. -/
def namespaceSwitch : Switch := { names := ["--namespace", "-n"], variableName := "NAMESPACE" }

/-- The switch for the name of the aggregator. -/
def aggregatorSwitch : Switch :=
  { names := ["--aggregator-name"], variableName := "AGGREGATOR_NAME" }

/-! ## Misuse -/

/-- Why the value of a switch is refused. -/
inductive Refusal where
  /-- Nothing stands at a path. -/
  | noPath (text : String)
  /-- Nothing stands where a file is wanted. -/
  | noFile (text : String)
  /-- A directory stands where a file is wanted. -/
  | directory (text : String)
  /-- A word is none for a level. -/
  | level (text : String)
  /-- A word is none for a truth value. -/
  | truth (text : String)
  deriving DecidableEq, Repr

namespace Refusal

/-- The message of a refusal. -/
def message : Refusal → String
  | noPath text => "Path " ++ Text.quoted text ++ " does not exist."
  | noFile text => "File " ++ Text.quoted text ++ " does not exist."
  | directory text => "File " ++ Text.quoted text ++ " is a directory."
  | level text =>
      Text.quoted text ++
        " is not one of 'debug', 'info', 'warning', 'error', 'critical'."
  | truth text =>
      Text.quoted text ++ " is not a valid boolean. Recognized values: " ++
        ", 0, 1, f, false, n, no, off, on, t, true, y, yes"

end Refusal

/-- What is wrong with a command line. -/
inductive UsageFault where
  /-- A switch that must be given is not. -/
  | missing (switch : Switch)
  | refused (switch : Switch) (reason : Refusal)
  /-- No command has a name.  The similar names are given. -/
  | unknownCommand (name : String) (similar : List String)
  /-- No switch has a name.  The similar names are given. -/
  | unknownSwitch (name : String) (similar : List String)
  /-- The command line ends where the value of a switch should stand. -/
  | missingValue (name : String)
  /-- A value is attached to a switch that takes none. -/
  | unwantedValue (name : String)
  | extraArguments (arguments : List String)
  | missingCommand
  /-- There are no arguments where a command should stand. -/
  | noArguments
  /-- A path has a character that no path can have. -/
  | brokenPath
  deriving DecidableEq, Repr

namespace UsageFault

/-- The question whether one of some names is meant. -/
def suggestion : List String → String
  | [] => ""
  | [name] => " Did you mean " ++ Text.quoted name ++ "?"
  | names =>
      let quoted := names.map fun (name : String) => Text.quoted name
      " (Did you mean one of: " ++ ", ".intercalate quoted ++ "?)"

/-- The message of a fault. -/
def message : UsageFault → String
  | missing switch => "Missing option " ++ switch.hint ++ "."
  | refused switch reason => "Invalid value for " ++ switch.hint ++ ": " ++ reason.message
  | unknownCommand name similar =>
      "No such command " ++ Text.quoted name ++ "." ++ suggestion similar
  | unknownSwitch name similar =>
      "No such option " ++ Text.quoted name ++ "." ++ suggestion similar
  | missingValue name => "Option " ++ Text.quoted name ++ " requires an argument."
  | unwantedValue name => "Option " ++ Text.quoted name ++ " does not take a value."
  | extraArguments arguments =>
      "Got unexpected extra argument" ++ (if arguments.length = 1 then "" else "s") ++ " (" ++
        " ".intercalate arguments ++ ")"
  | missingCommand => "Missing command."
  | noArguments => usage
  | brokenPath => "embedded null byte"

end UsageFault

end SchemaDecl.Command
