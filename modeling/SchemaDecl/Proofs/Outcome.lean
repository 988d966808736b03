import SchemaDecl.Proofs.Export
import SchemaDecl.Proofs.Writing

/-!
# What a run leaves behind

A run that is to write a product writes all of it or nothing.  As long as something can fail, from
the words of the command line to the last declaration, nothing but the log file has been touched,
and no directory has been made.  What is written in the end is the whole product.
-/

namespace SchemaDecl

namespace Attempt

variable {ε α β : Type}

theorem value_bind_of_ok {attempt : Attempt ε α} {value : α}
    (succeeded : attempt.run.value = .ok value) (next : α → Attempt ε β) :
    (attempt >>= next).run.value = (next value).run.value := by
  rw [value_bind, succeeded]
  rfl

end Attempt

namespace Command

variable {tree opened : FileTree} {environment : Environment} {words : List String}
  {globals : Globals} {job : Job} {output : Path} {text : CodeText}

/-! ## Jobs that fail, and jobs that do not -/

namespace Job

/-- The paths of the schema files of a job. -/
def schemas : Job → List Path
  | declarations schemas .. => schemas
  | model schemas _ => schemas
  | counts schemas _ => schemas

/-- The path of the file that a job writes, if it writes one. -/
def output? : Job → Option Path
  | declarations _ output .. => some output
  | model _ output => output
  | counts .. => none

/-- A text is the complete product of a job. -/
inductive Makes (tree : FileTree) : Job → CodeText → Prop
  /-- The text generated from the schema, with the two names in place of those in the settings. -/
  | declarations {schemas : List Path} {output : Path} {config : Option Path}
      {namespaceName aggregatorName : Option String} {settings : Config} {document : Document}
      {text : CodeText}
      (configured : (Config.load tree config).run.value = .ok settings)
      (loaded : (tree.loadDocument schemas).run.value = .ok document)
      (generated : (generate (override settings namespaceName aggregatorName) document).run.value =
        .ok text) :
      Makes tree (.declarations schemas output config namespaceName aggregatorName) text
  /-- The text of all items of the type model of the schema. -/
  | model {schemas : List Path} {output : Option Path} {document : Document} {items : List Item}
      (loaded : (tree.loadDocument schemas).run.value = .ok document)
      (modelled : (typeModel (some document)).run.value = .ok items) :
      Makes tree (.model schemas output) (modelText items)

theorem value_loadModel {schemas : List Path} {document : Document} {items : List Item}
    (loaded : (tree.loadDocument schemas).run.value = .ok document)
    (modelled : (typeModel (some document)).run.value = .ok items) :
    (loadModel tree schemas).run.value = .ok items :=
  (Attempt.value_bind_of_ok ((Attempt.value_mapFault_eq_ok_iff JobFault.load _ _).2 loaded) _).trans
    (value_checkedModel modelled)

/-- What a job makes is what its file is to hold. -/
theorem Makes.exists_product (makes : job.Makes tree text) :
    ∃ product, (job.product tree).run.value = .ok product ∧
      product.file = job.output?.map fun output => (output, text) := by
  cases makes with
  | declarations configured loaded generated =>
      exact ⟨_, value_product_declarations configured loaded generated _, rfl⟩
  | @model schemas output document items loaded modelled =>
      have model := value_loadModel loaded modelled
      cases output with
      | none => exact ⟨_, Attempt.value_bind_of_ok model _, rfl⟩
      | some output => exact ⟨_, Attempt.value_bind_of_ok model _, rfl⟩

/-- A job that writes a file makes one thing only. -/
theorem Makes.unique {other : CodeText} (writes : job.output? = some output)
    (makes : job.Makes tree text) (makesOther : job.Makes tree other) :
    text = other := by
  obtain ⟨product, produced, file⟩ := makes.exists_product
  obtain ⟨otherProduct, producedOther, fileOther⟩ := makesOther.exists_product
  cases produced.symm.trans producedOther
  rw [writes] at file fileOther
  exact congrArg Prod.snd (Option.some.inj (file.symm.trans fileOther))

end Job

/-! ## The log file -/

namespace Globals

/-- The place of the log file, if there is one. -/
def logPlaces (globals : Globals) (tree : FileTree) : List Destination :=
  globals.logFile.toList.map tree.destination

/-- Writing events changes nothing but the log file. -/
theorem keeps_of_writeLog {after : FileTree} {time : String} {events : List Event}
    (logged : globals.writeLog time events tree = .ok after) :
    tree.KeepsFiles (globals.logPlaces tree) after ∧ tree.SameDirectories after := by
  rw [writeLog] at logged
  rw [logPlaces]
  cases file : globals.logFile with
  | none =>
      simp only [file] at logged
      cases logged
      exact ⟨.refl tree _, fun _ => rfl⟩
  | some path =>
      simp only [file] at logged
      obtain ⟨writes, sameDirectories⟩ := FileTree.writes_of_create logged
      exact ⟨writes.keepsFiles, sameDirectories⟩

/-- Making the log file is writing no events to it. -/
theorem keeps_of_openLog (openedLog : globals.openLog tree = .ok opened) :
    tree.KeepsFiles (globals.logPlaces tree) opened ∧ tree.SameDirectories opened := by
  have empty : Utf8.encode (String.join []) = [] := by simp [Utf8.encode]
  have logged : globals.writeLog "" [] tree = .ok opened := by
    rw [writeLog, List.map_nil, empty]
    exact openedLog
  exact keeps_of_writeLog logged

end Globals

/-! ## Runs -/

/-- The words of a command line are refused, perhaps when a log file has been made. -/
inductive Refuses (tree : FileTree) (environment : Environment) (words : List String) :
    Option Path → Prop
  /-- There is something wrong with what is set for all commands. -/
  | globals {fault : UsageFault} (refused : globalsOf tree environment words = .error fault) :
      Refuses tree environment words none
  /-- The log file cannot be made. -/
  | log {globals : Globals} {group : String} {commands : List (String × JobName)}
      {rest : List String} {fault : FileFault}
      (read : globalsOf tree environment words = .ok (.value (globals, group, commands, rest)))
      (unopened : globals.openLog tree = .error fault) :
      Refuses tree environment words none
  /-- There is something wrong with what is given to the command. -/
  | job {globals : Globals} {group : String} {commands : List (String × JobName)}
      {rest : List String} {opened : FileTree} {fault : UsageFault}
      (read : globalsOf tree environment words = .ok (.value (globals, group, commands, rest)))
      (openedLog : globals.openLog tree = .ok opened)
      (refused : jobOf opened environment group commands rest = .error fault) :
      Refuses tree environment words globals.logFile

/-- A run ends early and leaves everything as it is but the files at some places. -/
structure Outcome.Untouched (outcome : Outcome) (tree : FileTree) (places : List Destination) :
    Prop where
  failed : outcome.status ≠ 0
  keepsFiles : tree.KeepsFiles places outcome.tree
  sameDirectories : tree.SameDirectories outcome.tree

theorem Outcome.status_ne_zero {outcome : Outcome} {fault : RunFault}
    (faulty : outcome.fault = some fault) : outcome.status ≠ 0 := by
  rw [Outcome.status, faulty]
  exact fault.status_ne_zero

theorem Refuses.untouched {log : Option Path} (refuses : Refuses tree environment words log)
    (time : String) :
    (run tree environment time words).Untouched tree (log.toList.map tree.destination) := by
  cases refuses with
  | globals refused =>
      simp only [run, refused]
      exact ⟨Outcome.status_ne_zero rfl, .refl tree _, fun _ => rfl⟩
  | log read unopened =>
      simp only [run, read, unopened]
      exact ⟨Outcome.status_ne_zero rfl, .refl tree _, fun _ => rfl⟩
  | job read openedLog refused =>
      simp only [run, read, openedLog, refused]
      obtain ⟨keepsFiles, sameDirectories⟩ := Globals.keeps_of_openLog openedLog
      exact ⟨Outcome.status_ne_zero rfl, keepsFiles, sameDirectories⟩

end Command

end SchemaDecl
