import SchemaDecl.Collect

/-!
# Collectors

A collector visits documents and single definitions one after the other.  Each visit of a document
begins a new list of items; single definitions add to the list that was begun last.  A list is known
by its number, so whoever has the number of a list sees it grow.
-/

namespace SchemaDecl

/-- The lists of items that a collector has begun. -/
structure Collector where
  /-- The lists that no items are added to any more, in the order in which they were begun. -/
  former : List (List Item) := []
  /-- The list that items are added to. -/
  items : List Item := []
  deriving DecidableEq, Repr

namespace Collector

/-- The number of the list that items are added to. -/
def latest (collector : Collector) : Nat :=
  collector.former.length

/-- The list with a number, which is empty before it is begun. -/
def list (collector : Collector) (number : Nat) : List Item :=
  ((collector.former ++ [collector.items])[number]?).getD []

/-- Give the list with a number other items. -/
def replace (collector : Collector) (number : Nat) (items : List Item) : Collector :=
  if number = collector.latest then { collector with items }
  else { collector with former := collector.former.set number items }

/-- Begin a new list. -/
def begin (collector : Collector) : Collector :=
  { former := collector.former ++ [collector.items] }

/-- Add the item of a definition, unless there is a fault in it. -/
def visitDefinition (collector : Collector) (definition : Definition) :
    Logged (Collector × Option DocumentFault) := do
  Logged.tellAll definition.notice.toList
  return match definition.item? with
    | .error fault => (collector, some fault)
    | .ok item => ({ collector with items := collector.items ++ item.toList }, none)

/-- Add the items of definitions, up to the first fault. -/
def visitDefinitions (collector : Collector) :
    List Definition → Logged (Collector × Option DocumentFault)
  | [] => return (collector, none)
  | definition :: rest => do
      match ← collector.visitDefinition definition with
      | (collector, none) => collector.visitDefinitions rest
      | (collector, some fault) => return (collector, some fault)

/-- Begin a new list with the items of a document, up to the first fault.  The number of the list is
given away unless there is a fault. -/
def visit (collector : Collector) :
    Option Document → Logged (Collector × Except DocumentFault Nat)
  | none => return (collector.begin, .ok collector.begin.latest)
  | some document => do
      match ← collector.begin.visitDefinitions document.definitions with
      | (collector, some fault) => return (collector, .error fault)
      | (collector, none) =>
          Logged.tell (.visited document.definitions.length collector.items.length)
          return (collector, .ok collector.latest)

end Collector

end SchemaDecl
