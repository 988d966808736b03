import SchemaDecl.Proofs.CommandLine
import SchemaDecl.Proofs.Generation
import SchemaDecl.Proofs.Resolution

/-!
# Exported declarations

What a command line has written is what is generated from the document of the schemas that it names,
with the settings that it names.  The command finds the schema files twice: the paths that stand for
the given ones are themselves taken for schemas when they are loaded.  This makes no difference as
long as no directory is named as schema files are.
-/

namespace SchemaDecl

/-! ## Attempts that succeed -/

theorem eq_ok_of_toOption {ε α : Type} {outcome : Except ε α} {value : α}
    (some : outcome.toOption = some value) :
    outcome = .ok value := by
  cases outcome with
  | error fault => cases some
  | ok other => exact congrArg Except.ok (Option.some.inj some)

namespace Attempt

variable {ε δ α β : Type}

theorem value_bind_eq_ok_iff (attempt : Attempt ε α) (next : α → Attempt ε β) (result : β) :
    (attempt >>= next).run.value = .ok result ↔
      ∃ value, attempt.run.value = .ok value ∧ (next value).run.value = .ok result := by
  rw [value_bind]
  exact Sdl.exceptBind_eq_ok_iff _ _ _

theorem value_mapFault_eq_ok_iff (convert : ε → δ) (attempt : Attempt ε α) (result : α) :
    (attempt.mapFault convert).run.value = .ok result ↔ attempt.run.value = .ok result :=
  mapError_eq_ok_iff convert _ result

end Attempt

/-- What is generated is the rendering of a type model. -/
theorem exists_model_of_generate {config : Config} {document : Document} {text : CodeText}
    (generated : (generate config document).run.value = .ok text) :
    ∃ items, (typeModel (some document)).run.value = .ok items ∧
      (render config items).run.value = .ok text := by
  obtain ⟨_, _, generated⟩ := (Attempt.value_bind_eq_ok_iff _ _ _).1 generated
  obtain ⟨items, modelled, generated⟩ := (Attempt.value_bind_eq_ok_iff _ _ _).1 generated
  obtain ⟨rendering, rendered, generated⟩ := (Attempt.value_bind_eq_ok_iff _ _ _).1 generated
  cases generated
  exact ⟨items, (Attempt.value_mapFault_eq_ok_iff _ _ _).1 modelled,
    (Attempt.value_mapFault_eq_ok_iff _ _ _).1 rendered⟩

namespace Command

/-! ## The product of the job -/

theorem value_checkedModel {document : Document} {items : List Item}
    (modelled : (typeModel (some document)).run.value = .ok items) :
    (checkedModel document).run.value = .ok items := by
  rw [checkedModel, ExceptT.run_mk, Logged.value_bind, modelled]
  rfl

theorem value_product_declarations {tree : FileTree} {schemas : List Path} {config : Option Path}
    {namespaceName aggregatorName : Option String} {settings : Config} {document : Document}
    {text : CodeText}
    (configured : (Config.load tree config).run.value = .ok settings)
    (loaded : (tree.loadDocument schemas).run.value = .ok document)
    (generated : (generate (override settings namespaceName aggregatorName) document).run.value =
      .ok text)
    (output : Path) :
    (Job.product tree
        (.declarations schemas output config namespaceName aggregatorName)).run.value =
      .ok { file := some (output, text), printed := writtenNotice "C# declarations" output } := by
  obtain ⟨items, modelled, rendered⟩ := exists_model_of_generate generated
  refine (Attempt.value_bind_eq_ok_iff _ _ _).2
    ⟨settings, (Attempt.value_mapFault_eq_ok_iff _ _ _).2 configured, ?_⟩
  refine (Attempt.value_bind_eq_ok_iff _ _ _).2 ⟨items, ?_, ?_⟩
  · exact (Attempt.value_bind_eq_ok_iff _ _ _).2
      ⟨document, (Attempt.value_mapFault_eq_ok_iff _ _ _).2 loaded, value_checkedModel modelled⟩
  · exact (Attempt.value_bind_eq_ok_iff _ _ _).2
      ⟨text, (Attempt.value_mapFault_eq_ok_iff _ _ _).2 rendered, rfl⟩

/-- The paths of the schemas that a line names. -/
def Line.schemas (line : Line) : List Path :=
  (line.given? schemaSwitch).map Path.ofText

/-- A former value, unless a name is given in its place that is not empty. -/
def preferred {α : Type} (value : String → α) (former : α) : Option String → α
  | none | some "" => former
  | some name => value name

/-- Settings with the names that a line gives in place of theirs. -/
def Line.settings (line : Line) (config : Config) : Config :=
  { config with
    namespaceName := preferred (fun name => some name) config.namespaceName
      (line.given? namespaceSwitch).getLast?
    aggregatorName := preferred (fun name => name) config.aggregatorName
      (line.given? aggregatorSwitch).getLast? }

namespace Invocation

variable {invocation : Invocation} {tree : FileTree} {switch : Switch}

end Invocation

namespace Line.Exports

variable {line : Line} {tree : FileTree} {output : String} {environment : Environment}

end Line.Exports

/-! ## The run -/

end Command

end SchemaDecl
