import SchemaDecl.Command.Request

/-!
# Running the program

A run takes the file tree, the environment and the words of the command line to an outcome.  The log
file is made before the words of the command are read.  The job is done up to its product; then the
events are written to the log file, and last the product is written.
-/

namespace SchemaDecl.Command

/-- Why a run ends without its product. -/
inductive RunFault where
  | usage (fault : UsageFault)
  | job (fault : JobFault)

namespace JobFault

/-- The message of a fault, which is empty for some. -/
def message : JobFault → String
  | config fault => fault.message
  | load fault => "Failed to load schema: " ++ fault.message
  | document fault => fault.message
  | rendering _ => ""
  | file _ => ""
  | surrogate fault => fault.message
  | printing fault => fault.message

end JobFault

namespace RunFault

/-- The message of a fault. -/
def message : RunFault → String
  | usage fault => fault.message
  | job fault => fault.message

/-- The status that a run ends with. -/
def status : RunFault → Nat
  | usage .brokenPath => 1
  | usage _ => 2
  | job _ => 1

theorem status_ne_zero (fault : RunFault) : fault.status ≠ 0 := by
  unfold status
  split <;> simp

end RunFault

/-- How a run ends. -/
structure Outcome where
  /-- The files and directories after the run. -/
  tree : FileTree
  /-- What is printed apart from events and faults. -/
  printed : String := ""
  /-- The events that are told. -/
  events : List Event := []
  /-- What ends the run early. -/
  fault : Option RunFault := none

namespace Outcome

/-- The status that the run ends with: zero unless there is a fault. -/
def status (outcome : Outcome) : Nat :=
  (outcome.fault.map RunFault.status).getD 0

/-- What is told about a run: its events, and the fault unless an event tells it. -/
def report (outcome : Outcome) : String :=
  let fault :=
    match outcome.fault with
    | none | some (.job (.document (.unsupported _))) => ""
    | some fault => "Error: " ++ fault.message ++ "\n"
  String.join (outcome.events.map fun event => event.level.label ++ " " ++ event.message ++ "\n") ++
    fault

end Outcome

/-- An event as a line of a log file. -/
def logLine (time : String) (event : Event) : String :=
  time ++ ":" ++ event.level.label ++ ":" ++ event.message ++ "\n"

namespace Globals

/-- Whether an event is told. -/
def tells (globals : Globals) (event : Event) : Bool :=
  globals.level.rank ≤ event.level.rank

/-- Make the log file, empty, if there is one. -/
def openLog (globals : Globals) (tree : FileTree) : Except FileFault FileTree :=
  match globals.logFile with
  | none => .ok tree
  | some path => tree.create path []

/-- Write events to the log file, if there is one. -/
def writeLog (globals : Globals) (time : String) (events : List Event) (tree : FileTree) :
    Except FileFault FileTree :=
  match globals.logFile with
  | none => .ok tree
  | some path => tree.create path (Utf8.encode (String.join (events.map (logLine time))))

end Globals

/-- Do a job and write its product. -/
def Job.run (job : Job) (globals : Globals) (time : String) (tree : FileTree) : Outcome :=
  let (result, events) := (job.product tree).outcome
  let events := events.filter globals.tells
  match globals.writeLog time events tree with
  | .error fault => { tree, events, fault := some (.job (.file fault)) }
  | .ok tree =>
      match result with
      | .error fault => { tree, events, fault := some (.job fault) }
      | .ok product =>
          match product.write tree with
          | (tree, .error fault) => { tree, events, fault := some (.job fault) }
          | (tree, .ok ()) =>
              match product.printed with
              | .error fault => { tree, events, fault := some (.job (.printing fault)) }
              | .ok printed => { tree, printed, events }

/-- The names of all environment variables that a run can look at. -/
def variableNames : List String :=
  globalSwitches.map (variableOf []) ++
    groups.flatMap fun group =>
      variableOf [group.1] helpSwitch ::
        group.2.flatMap fun command =>
          command.2.switches.map (variableOf [group.1, command.1])

/-- Run the program on the words of a command line. -/
def run (tree : FileTree) (environment : Environment) (time : String) (words : List String) :
    Outcome :=
  match globalsOf tree environment words with
  | .error fault => { tree, fault := some (.usage fault) }
  | .ok (.notice text) => { tree, printed := text }
  | .ok (.value (globals, group, commands, rest)) =>
      match globals.openLog tree with
      | .error fault => { tree, fault := some (.job (.file fault)) }
      | .ok tree =>
          match jobOf tree environment group commands rest with
          | .error fault => { tree, fault := some (.usage fault) }
          | .ok (.notice text) => { tree, printed := text }
          | .ok (.value job) => job.run globals time tree

end SchemaDecl.Command
