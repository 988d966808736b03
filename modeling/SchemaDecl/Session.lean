import SchemaDecl.Collector
import SchemaDecl.Generation
import SchemaDecl.Unresolved

/-!
# Sessions

A session has a collector, a list of items that is worked on, and the settings for rendering.  The
list worked on is either one of the collector's, which can grow as more definitions are visited, or
a list of its own.
-/

namespace SchemaDecl

/-- A list of items that is worked on. -/
inductive Focus where
  /-- The list of the collector with a number. -/
  | collected (number : Nat)
  /-- A list that the collector does not know. -/
  | own (items : List Item)
  deriving DecidableEq, Repr

/-- The state of a session. -/
structure Session where
  collector : Collector := {}
  focus : Focus := .own []
  config : Config := {}

namespace Session

/-- The items collected since the last visit began. -/
def collected (session : Session) : List Item :=
  session.collector.items

/-- The items worked on. -/
def current (session : Session) : List Item :=
  match session.focus with
  | .collected number => session.collector.list number
  | .own items => items

/-- Replace the content of the list worked on. -/
def withCurrent (session : Session) (items : List Item) : Session :=
  match session.focus with
  | .collected number => { session with collector := session.collector.replace number items }
  | .own _ => { session with focus := .own items }

/-- Work on a new list. -/
def setItems (session : Session) (items : List Item) : Session :=
  { session with focus := .own items }

/-- Work on the collected items. -/
def takeCollected (session : Session) : Session :=
  { session with focus := .collected session.collector.latest }

/-- Visit a document.  If it succeeds its items are worked on. -/
def visit (session : Session) (document : Option Document) :
    Logged (Session × Option DocumentFault) := do
  let (collector, outcome) ← session.collector.visit document
  return match outcome with
    | .ok number => ({ session with collector, focus := .collected number }, none)
    | .error fault => ({ session with collector }, some fault)

/-- Visit definitions up to the first fault. -/
def visitDefinitions (session : Session) (definitions : List Definition) :
    Logged (Session × Option DocumentFault) := do
  let (collector, fault) ← session.collector.visitDefinitions definitions
  return ({ session with collector }, fault)

/-- Add one item to those worked on. -/
def addItem (session : Session) (item : Item) : Session :=
  session.withCurrent (session.current ++ [item])

/-- Change the list worked on. -/
def modify (session : Session) (change : List Item → Logged (List Item)) : Logged Session := do
  let items ← change session.current
  return session.withCurrent items

/-- Change one of the items worked on. -/
def modifyAt (session : Session) (index : Nat) (change : Item → Item) : Session :=
  session.withCurrent (session.current.modify index change)

/-- The collected items, each by its kind and name. -/
def collectedNames (session : Session) : List String :=
  session.collected.map fun item => item.kind.label ++ " " ++ item.name

end Session

end SchemaDecl
