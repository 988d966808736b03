/-!
# Log records

An event is something worth telling while a schema is worked on.  It has a level and a message.
`Logged` computations yield a value together with the events on the way, in order.
-/

namespace SchemaDecl

/-- How much an event matters, in ascending order. -/
inductive Level where
  | debug
  | info
  | warning
  | error
  | critical
  deriving DecidableEq, Repr

namespace Level

/-- The word for a level. -/
def label : Level → String
  | debug => "DEBUG"
  | info => "INFO"
  | warning => "WARNING"
  | error => "ERROR"
  | critical => "CRITICAL"

/-- The place of a level in the order. -/
def rank : Level → Nat
  | debug => 0
  | info => 1
  | warning => 2
  | error => 3
  | critical => 4

/-- All levels, in ascending order. -/
def all : List Level :=
  [debug, info, warning, error, critical]

end Level

/-- Something worth telling. -/
inductive Event where
  | noConfig
  | loadedConfig (path : String)
  | parsed (definitions paths : Nat)
  | transforming (definitions : Nat)
  | skippedDirective (name : String)
  | skippedScalar (name : String)
  | skippedInterfaceExtension (name : String)
  | skippedUnion (name : String)
  | skippedInputObject (name : String)
  | visited (definitions items : Nat)
  | undeclaredInterface (interface item : String)
  | injected (count : Nat) (interface item : String)
  | promoted (name : String)
  | folded (name : String) (count : Nat)
  | resolved (items : Nat)
  | skippedItem (kind name : String)
  | entities (names : List String)
  | rendered (declarations : Nat)
  | converted
  | undeclaredTypes (names : List String)
  | unsupportedDefinition (kind : String)
  deriving DecidableEq, Repr

namespace Event

/-- The level of an event. -/
def level : Event → Level
  | parsed .. | transforming .. | visited .. | resolved .. | rendered .. | converted => .info
  | undeclaredTypes .. => .warning
  | unsupportedDefinition .. => .error
  | _ => .debug

/-- The message of an event. -/
def message : Event → String
  | noConfig => "No codegen config provided"
  | loadedConfig path => s!"Loaded codegen config from {path}"
  | parsed definitions paths => s!"Parsed {definitions} definitions from {paths} path(s)"
  | transforming definitions =>
      s!"Transforming GraphQL document with {definitions} definitions to C#"
  | skippedDirective name => s!"Skipping directive definition @{name}"
  | skippedScalar name => s!"Skipping scalar {name}"
  | skippedInterfaceExtension name => s!"Skipping interface extension {name}"
  | skippedUnion name => s!"Skipping union {name}"
  | skippedInputObject name => s!"Skipping input object {name}"
  | visited definitions items => s!"Visited {definitions} definitions, collected {items} items"
  | undeclaredInterface interface item =>
      s!"Interface {interface} implemented by {item} is not declared"
  | injected count interface item => s!"Injected {count} field(s) from {interface} into {item}"
  | promoted name => s!"Extension of {name} has no base, promoted to object"
  | folded name count => s!"Folded extension of {name} into its base ({count} new field(s))"
  | resolved items => s!"Resolved {items} items"
  | skippedItem kind name => s!"Skipping {kind} item {name}"
  | entities names => s!"Found {names.length} entities: " ++ ", ".intercalate names
  | rendered declarations => s!"Rendered {declarations} C# declarations"
  | converted => "Successfully converted GraphQL document to C#"
  | undeclaredTypes names =>
      "Types referenced but not declared or mapped: " ++ ", ".intercalate names
  | unsupportedDefinition kind =>
      s!"Unsupported definition: {kind}. Only type system definitions and extensions are supported."

end Event

/-- A value together with the events on the way to it. -/
structure Logged (α : Type) where
  value : α
  events : List Event := []

namespace Logged

/-- The events of two steps are told in the order of the steps. -/
instance : Monad Logged where
  pure value := ⟨value, []⟩
  bind first next :=
    let second := next first.value
    ⟨second.value, first.events ++ second.events⟩

instance : LawfulMonad Logged :=
  LawfulMonad.mk' Logged
    (fun _ => by simp [Functor.map])
    (fun _ _ => by simp [bind, pure])
    (fun _ _ _ => by simp [bind, List.append_assoc])

/-- Tell one event. -/
def tell (event : Event) : Logged Unit :=
  ⟨(), [event]⟩

/-- Tell some events in order. -/
def tellAll (events : List Event) : Logged Unit :=
  ⟨(), events⟩

@[simp] theorem value_pure {α : Type} (value : α) : (pure value : Logged α).value = value := rfl

@[simp] theorem value_bind {α β : Type} (first : Logged α) (next : α → Logged β) :
    (first >>= next).value = (next first.value).value := rfl

@[simp] theorem value_map {α β : Type} (change : α → β) (logged : Logged α) :
    (change <$> logged).value = change logged.value := rfl

@[simp] theorem value_tell (event : Event) : (tell event).value = () := rfl

@[simp] theorem events_pure {α : Type} (value : α) : (pure value : Logged α).events = [] := rfl

@[simp] theorem events_bind {α β : Type} (first : Logged α) (next : α → Logged β) :
    (first >>= next).events = first.events ++ (next first.value).events := rfl

@[simp] theorem events_tell (event : Event) : (tell event).events = [event] := rfl

/-- The value of a logged fold is the fold of the values. -/
theorem value_foldlM {α β : Type} (step : β → α → Logged β) (state : β) (elements : List α) :
    (elements.foldlM step state).value =
      elements.foldl (fun state element => (step state element).value) state := by
  induction elements generalizing state with
  | nil => rfl
  | cons element rest ih => simp [ih]

end Logged

/-- A computation that tells events and may fail; the events up to the failure remain. -/
abbrev Attempt (ε : Type) := ExceptT ε Logged

namespace Attempt

/-- Tell one event. -/
def tell {ε : Type} (event : Event) : Attempt ε Unit :=
  ExceptT.lift (Logged.tell event)

/-- Give the failure of an attempt as one of another kind. -/
def mapFault {ε δ α : Type} (convert : ε → δ) (attempt : Attempt ε α) : Attempt δ α :=
  ExceptT.mk ⟨attempt.run.value.mapError convert, attempt.run.events⟩

theorem value_bind {ε α β : Type} (attempt : Attempt ε α) (next : α → Attempt ε β) :
    (attempt >>= next).run.value = attempt.run.value.bind fun value => (next value).run.value := by
  rw [ExceptT.run_bind, Logged.value_bind]
  cases attempt.run.value <;> rfl

/-- The outcome and the events of an attempt. -/
def outcome {ε α : Type} (attempt : Attempt ε α) : Except ε α × List Event :=
  (attempt.run.value, attempt.run.events)

end Attempt

end SchemaDecl
