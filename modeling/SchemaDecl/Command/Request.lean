import SchemaDecl.Command.Job
import SchemaDecl.Command.Line

/-!
# From command lines to jobs

The words before the name of a command set what holds for all commands; the words after it set what
the job needs.  Values are checked against the file tree: a path to read has to be there, and a path
to write must not be that of a directory.  Of several faults, the one of the value that is looked at
first is reported.
-/

namespace SchemaDecl.Command

/-- What holds for all commands. -/
structure Globals where
  /-- The least level of the events that are told. -/
  level : Level := .info
  /-- The file that events are written to. -/
  logFile : Option Path := none
  deriving DecidableEq, Repr

/-- The names of the jobs. -/
inductive JobName where
  | exportDeclarations
  | exportModel
  | countItems
  deriving DecidableEq, Repr

namespace JobName

/-- The switches of a job, in the order in which they are looked at if they are not given. -/
def switches : JobName → List Switch
  | exportDeclarations =>
      [schemaSwitch, outputSwitch, configSwitch, namespaceSwitch, aggregatorSwitch, helpSwitch]
  | exportModel => [schemaSwitch, outputSwitch, helpSwitch]
  | countItems => [schemaSwitch, configSwitch, helpSwitch]

end JobName

/-- The groups of commands, and the commands in each. -/
def groups : List (String × List (String × JobName)) :=
  [("export", [("csharp", .exportDeclarations), ("model", .exportModel)]),
   ("stats", [("model", .countItems)])]

/-- What words ask for: a notice instead of any work, or something to go on with. -/
inductive Asked (α : Type) where
  | notice (text : String)
  | value (value : α)
  deriving Repr

/-- The fault of a checked value. -/
def faultOf {α : Type} : Except UsageFault α → Option UsageFault
  | .error fault => some fault
  | .ok _ => none

/-! ## Values -/

/-- The level for a word, in letters of either case. -/
def levelOf (invocation : Invocation) : Except UsageFault Level :=
  match invocation.value? levelSwitch with
  | none => .ok .info
  | some word =>
      let upper := String.ofList (word.toList.map Char.toUpper)
      match Level.all.find? fun level => level.label == upper with
      | some level => .ok level
      | none => .error (.refused levelSwitch (.level word))

/-- Check that a text can be that of a path. -/
def checkPath (text : String) : Except UsageFault Unit :=
  if '\x00' ∈ text.toList then .error .brokenPath else .ok ()

/-- The path of a file to write, if one is given. -/
def fileToWrite (tree : FileTree) (invocation : Invocation) (switch : Switch) :
    Except UsageFault (Option Path) :=
  match invocation.value? switch with
  | none => .ok none
  | some text => do
      checkPath text
      if tree.written? text = some .directory then throw (.refused switch (.directory text))
      return some (Path.ofText text)

/-- The path of a file to write, which has to be given. -/
def neededFileToWrite (tree : FileTree) (invocation : Invocation) (switch : Switch) :
    Except UsageFault Path := do
  match ← fileToWrite tree invocation switch with
  | none => throw (.missing switch)
  | some path => return path

/-- The path of a file to read, if one is given. -/
def fileToRead (tree : FileTree) (invocation : Invocation) (switch : Switch) :
    Except UsageFault (Option Path) :=
  match invocation.value? switch with
  | none => .ok none
  | some text => do
      checkPath text
      match tree.written? text with
      | none => throw (.refused switch (.noFile text))
      | some .directory => throw (.refused switch (.directory text))
      | some (.file _) => return some (Path.ofText text)

/-- The path of a schema file or directory. -/
def schemaPath (tree : FileTree) (text : String) : Except UsageFault Path := do
  checkPath text
  match tree.written? text with
  | none => throw (.refused schemaSwitch (.noPath text))
  | some _ => return Path.ofText text

/-- The schema files of the given paths, of which there has to be one. -/
def schemasToRead (tree : FileTree) (invocation : Invocation) : Except UsageFault (List Path) := do
  match invocation.values schemaSwitch with
  | [] => throw (.missing schemaSwitch)
  | texts =>
      let paths ← texts.mapM (schemaPath tree)
      return tree.schemaFiles paths

/-! ## Choosing a command -/

/-- Whether a word may be meant as a switch. -/
def looksLikeSwitch (word : String) : Bool :=
  word.toList.head?.any fun char => char.toNat < 128 && !char.isAlphanum

/-- Choose the command that the first word names.  A word that names none, but may be meant as a
switch, is read as one together with the words after it. -/
def choose {α β : Type} (read : List String → Except UsageFault (Asked β))
    (commands : List (String × α)) :
    List String → Except UsageFault (Asked (String × α × List String))
  | [] => .error .missingCommand
  | name :: words =>
      match commands.lookup name with
      | some command => .ok (.value (name, command, words))
      | none => do
          if looksLikeSwitch name then
            if let .notice text ← read (name :: words) then return .notice text
          throw (.unknownCommand name (Text.closeTo name (commands.map Prod.fst)))

/-- The switches of the program. -/
def globalSwitches : List Switch :=
  [levelSwitch, logFileSwitch, versionSwitch, helpSwitch]

/-- What words set for all commands, and the words that are left. -/
def readGlobals (tree : FileTree) (environment : Environment) (words : List String) :
    Except UsageFault (Asked (Globals × List String)) := do
  let line ← Line.read globalSwitches false words
  let invocation : Invocation := ⟨[], line, environment⟩
  if let some text ← invocation.notice? globalSwitches then return .notice text
  let level := levelOf invocation
  let logFile := fileToWrite tree invocation logFileSwitch
  if let some fault :=
      line.firstFault? [(levelSwitch, faultOf level), (logFileSwitch, faultOf logFile)] then
    throw fault
  return .value ({ level := ← level, logFile := ← logFile }, line.rest)

/-- What the words before the group of a command set, the group, and the words after it. -/
def globalsOf (tree : FileTree) (environment : Environment) (words : List String) :
    Except UsageFault
      (Asked (Globals × String × List (String × JobName) × List String)) := do
  if words = [] then throw .noArguments
  match ← readGlobals tree environment words with
  | .notice text => return .notice text
  | .value (globals, rest) =>
      match ← choose (readGlobals tree environment) groups rest with
      | .notice text => return .notice text
      | .value (group, commands, rest) => return .value (globals, group, commands, rest)

/-- The job of a name that an invocation describes. -/
def jobFrom (tree : FileTree) (invocation : Invocation) (name : JobName) :
    Except UsageFault Job := do
  let schemas := schemasToRead tree invocation
  let config := fileToRead tree invocation configSwitch
  let faults : List (Switch × Option UsageFault) :=
    match name with
    | .exportDeclarations =>
        [(schemaSwitch, faultOf schemas),
         (outputSwitch, faultOf (neededFileToWrite tree invocation outputSwitch)),
         (configSwitch, faultOf config)]
    | .exportModel =>
        [(schemaSwitch, faultOf schemas),
         (outputSwitch, faultOf (fileToWrite tree invocation outputSwitch))]
    | .countItems => [(schemaSwitch, faultOf schemas), (configSwitch, faultOf config)]
  if let some fault := invocation.line.firstFault? faults then throw fault
  if invocation.line.rest ≠ [] then throw (.extraArguments invocation.line.rest)
  match name with
  | .exportDeclarations =>
      return .declarations (← schemas) (← neededFileToWrite tree invocation outputSwitch)
        (← config) (invocation.value? namespaceSwitch) (invocation.value? aggregatorSwitch)
  | .exportModel => return .model (← schemas) (← fileToWrite tree invocation outputSwitch)
  | .countItems => return .counts (← schemas) (← config)

/-- The words that are left after the switches of a group. -/
def readGroup (environment : Environment) (group : String) (words : List String) :
    Except UsageFault (Asked (List String)) := do
  let line ← Line.read [helpSwitch] false words
  let invocation : Invocation := ⟨[group], line, environment⟩
  if let some text ← invocation.notice? [helpSwitch] then return .notice text
  return .value line.rest

/-- The job that the words after the name of a command ask for. -/
def readJob (tree : FileTree) (environment : Environment) (group command : String) (name : JobName)
    (words : List String) : Except UsageFault (Asked Job) := do
  let line ← Line.read name.switches true words
  let invocation : Invocation := ⟨[group, command], line, environment⟩
  if let some text ← invocation.notice? name.switches then return .notice text
  return .value (← jobFrom tree invocation name)

/-- The job that the words after a group ask for. -/
def jobOf (tree : FileTree) (environment : Environment) (group : String)
    (commands : List (String × JobName)) (words : List String) :
    Except UsageFault (Asked Job) := do
  if words = [] then throw .noArguments
  match ← readGroup environment group words with
  | .notice text => return .notice text
  | .value rest =>
      match ← choose (readGroup environment group) commands rest with
      | .notice text => return .notice text
      | .value (command, name, rest) => readJob tree environment group command name rest

end SchemaDecl.Command
