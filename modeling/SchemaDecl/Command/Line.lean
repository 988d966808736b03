import SchemaDecl.Command.Switch
import SchemaDecl.Data.Check
import SchemaDecl.Text.Blank
import SchemaDecl.Text.Case

/-!
# Reading command lines

A word that starts with a dash is a switch.  A switch of two dashes has its value after an equals
sign or in the next word; one of a single dash and a letter has it attached or in the next word.
Two dashes alone end the switches.  All other words are the arguments that are left.
-/

namespace SchemaDecl.Command

/-- The switches of a line with their values, in order, and the other words. -/
structure Line where
  given : List (Switch × String) := []
  rest : List String := []
  deriving Repr

namespace Line

/-- A line with a switch put before it. -/
def withSwitch (switch : Switch) (value : String) (line : Line) : Line :=
  { line with given := (switch, value) :: line.given }

/-- A line with another word put before it. -/
def withWord (word : String) (line : Line) : Line :=
  { line with rest := word :: line.rest }

/-- The name in a word that starts with a dash, and the value if it is attached. -/
def splitWord (word : String) : String × Option String :=
  let (name, attached) :=
    if Switch.isLong word then
      let name := word.toList.takeWhile (· != '=')
      (name, if word.toList.contains '=' then some (word.toList.drop (name.length + 1)) else none)
    else
      let attached := word.toList.drop 2
      (word.toList.take 2, if attached = [] then none else some attached)
  (String.ofList name, attached.map String.ofList)

/-- What a word that starts with a dash says: the switch, its name, and the value if it is
attached. -/
def switchOf (switches : List Switch) (word : String) :
    Except UsageFault (Switch × String × Option String) :=
  let (name, attached) := splitWord word
  match Switch.named? switches name with
  | none => .error (.unknownSwitch name (Switch.similarTo switches name))
  | some switch =>
      if attached.isSome && !switch.takesValue then .error (.unwantedValue name)
      else .ok (switch, name, attached)

/-- Whether a word starts with a dash and goes on. -/
def isSwitch (word : String) : Bool :=
  match word.toList with
  | '-' :: _ :: _ => true
  | _ => false

/-- Read words.  Unless switches may stand among the other words, the first of these ends them. -/
def read (switches : List Switch) (mixed : Bool) : List String → Except UsageFault Line
  | [] => .ok {}
  | word :: words =>
      if word = "--" then .ok { rest := words }
      else if isSwitch word then
        match switchOf switches word with
        | .error fault => .error fault
        | .ok (switch, _, some value) => withSwitch switch value <$> read switches mixed words
        | .ok (switch, name, none) =>
            if switch.takesValue then
              match words with
              | [] => .error (.missingValue name)
              | value :: later => withSwitch switch value <$> read switches mixed later
            else withSwitch switch "" <$> read switches mixed words
      else if mixed then withWord word <$> read switches mixed words
      else .ok { rest := word :: words }

/-- The values given to a switch. -/
def given? (line : Line) (switch : Switch) : List String :=
  (line.given.filter fun given => given.1 = switch).map Prod.snd

/-- Switches in the order in which their values are looked at: those that are given, by their first
place, then the others. -/
def inOrder (line : Line) (switches : List Switch) : List Switch :=
  let placed := (line.given.map Prod.fst).filter switches.contains
  placed ++ switches.filter fun switch => !placed.contains switch

/-- The fault of the first switch that has one. -/
def firstFault? (line : Line) (faults : List (Switch × Option UsageFault)) : Option UsageFault :=
  (line.inOrder (faults.map Prod.fst)).findSome? fun switch => (faults.lookup switch).join

end Line

/-! ## The environment -/

/-- Environment variables and their values. -/
abbrev Environment := List (String × String)

/-- The name of the variable of a switch of a command, of which all names are given. -/
def variableOf (command : List String) (switch : Switch) : String :=
  let upper (word : String) := String.ofList (word.toList.map Char.toUpper)
  "_".intercalate (("sdlgen" :: command).map upper ++ [switch.variableName])

/-- A line of a command and the environment it is used in. -/
structure Invocation where
  /-- The names that lead to the command. -/
  command : List String
  line : Line
  environment : Environment

namespace Invocation

/-- The value of the variable of a switch.  An empty one counts as none. -/
def inEnvironment? (invocation : Invocation) (switch : Switch) : Option String :=
  (invocation.environment.lookup (variableOf invocation.command switch)).filter (· != "")

/-- The value of a switch: the last one given, or that of its variable. -/
def value? (invocation : Invocation) (switch : Switch) : Option String :=
  (invocation.line.given? switch).getLast?.or (invocation.inEnvironment? switch)

/-- The truth value of a word, in letters of either case and with blanks around it.  A word without
letters is false. -/
def truthOf? (word : String) : Option Bool :=
  let plain := Text.lowered (Text.trim word.toList)
  if plain = [] then some false else Data.truthWords.lookup (String.ofList plain)

/-- The notice of the first of some switches that is asked for, be it on the line or by the truth
value of its variable. -/
def noticeAmong? (invocation : Invocation) : List Switch → Except UsageFault (Option String)
  | [] => .ok none
  | switch :: rest =>
      if invocation.line.given? switch ≠ [] then .ok switch.notice
      else
        match invocation.inEnvironment? switch with
        | none => noticeAmong? invocation rest
        | some word =>
            match truthOf? word with
            | some true => .ok switch.notice
            | some false => noticeAmong? invocation rest
            | none => .error (.refused switch (.truth word))

/-- The notice that is to be printed in place of any work, if there is one. -/
def notice? (invocation : Invocation) (switches : List Switch) :
    Except UsageFault (Option String) :=
  invocation.noticeAmong?
    (invocation.line.inOrder (switches.filter fun switch => switch.notice.isSome))

/-- Cut a text at every colon, given the beginning of the first piece. -/
def splitColons (piece : List Char) : List Char → List (List Char)
  | [] => [piece]
  | ':' :: rest => piece :: splitColons [] rest
  | character :: rest => splitColons (piece ++ [character]) rest

/-- All values of a switch: those given, or those that colons separate in its variable. -/
def values (invocation : Invocation) (switch : Switch) : List String :=
  match invocation.line.given? switch with
  | [] =>
      match invocation.inEnvironment? switch with
      | none => []
      | some text => (splitColons [] text.toList).map String.ofList
  | given => given

end Invocation

end SchemaDecl.Command
