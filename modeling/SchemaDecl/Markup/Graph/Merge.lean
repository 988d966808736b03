import SchemaDecl.Markup.Fault
import SchemaDecl.Markup.Graph

/-!
# Entries that are taken over

A mapping takes over the entries of other mappings with the key `<<`, whose value is a mapping or a
sequence of mappings.  They come before its own entries, and those of a later mapping in a sequence
before those of an earlier one.  The node changes for all that it is part of.  In a mapping whose
entries have been taken over in this way, the key `=` is a text like any other.
-/

namespace SchemaDecl.Markup

namespace Graph

/-- Whether a key takes over entries. -/
def isMergeKey (graph : Graph) (entry : Place × Place) : Bool :=
  graph.tag entry.1 == .merge

/-- The number of the entries of a node that take over others. -/
def mergeKeys (graph : Graph) (node : Node) : Nat :=
  match node.content with
  | .mapping entries => entries.countP graph.isMergeKey
  | _ => 0

/-- The number of entries in a graph that take over others. -/
def mergeCount (graph : Graph) : Nat :=
  graph.nodes.foldl (fun count node => count + graph.mergeKeys node) 0

/-- Read a key `=` as a text. -/
def plainKey (graph : Graph) (entry : Place × Place) : Graph :=
  if graph.tag entry.1 = .value then graph.setTag entry.1 .text else graph

/-- Read the keys `=` of a mapping as texts, and put entries before its own. -/
def prepend (graph : Graph) (place : Place) (merged : List (Place × Place)) : Graph :=
  let entries := (graph.entries? place).getD []
  (entries.foldl plainKey graph).setContent place (.mapping (merged ++ entries))

/-- The mappings that the value of the key `<<` stands for. -/
def mergeSources? (graph : Graph) (value : Place) : Option (List Place) :=
  match graph.content value with
  | .mapping _ => some [value]
  | .sequence elements => some elements
  | .scalar _ => none

/-- Take the entries of the mapping at a place that take over others out of it, one after the other,
and gather what they take over. -/
def gather (place : Place) : Nat → Graph → Except MarkupFault (Graph × List (Place × Place))
  | 0, graph => .ok (graph, [])
  | bound + 1, graph => do
      let entries := (graph.entries? place).getD []
      match entries.find? graph.isMergeKey with
      | none => return (graph, [])
      | some entry =>
          let graph := graph.setContent place (.mapping (entries.eraseP graph.isMergeKey))
          match graph.mergeSources? entry.2 with
          | none => throw .form
          | some sources =>
              let (graph, merged) ← sources.foldlM
                (fun (graph, merged) source => do
                  if (graph.entries? source).isNone then throw MarkupFault.form
                  let (graph, before) ← gather source bound graph
                  let graph := graph.prepend source before
                  return (graph, (graph.entries? source).getD [] ++ merged))
                (graph, [])
              let (graph, later) ← gather place bound graph
              return (graph, merged ++ later)

/-- Put the entries that the mapping at a place takes over before its own. -/
def flatten (graph : Graph) (place : Place) : Except MarkupFault Graph := do
  let (graph, merged) ← gather place graph.mergeCount graph
  return graph.prepend place merged

end Graph

end SchemaDecl.Markup
