import SchemaDecl.Markup.Graph.Merge
import SchemaDecl.Markup.Graph.Reader
import SchemaDecl.Markup.Literal

/-!
# Data written as markup

A node stands for a value of the kind that its tag asks for.  A scalar gets its value when it is
met.  A collection is filled later, all those of one level before those of the next, so of several
faults the one nearest to the root counts.  A node that is part of several others is met once, and
stands for the same value in all of them.  In a mapping the last value of a key counts.
-/

namespace SchemaDecl.Markup

/-- The value that a node stands for.  The parts of a collection are given by their nodes. -/
inductive Value where
  /-- A plain value, and whether as a key it is the same only as itself. -/
  | plain (data : Data) (single : Bool)
  | list (elements : List Place)
  | set (elements : List Place)
  | pairs (entries : List (Place × Place))
  | mapping (entries : List (Place × Place))
  deriving Repr

namespace Value

/-- The collection without elements that a tag asks for. -/
def ofTag : Tag → Value
  | .mapping => mapping []
  | .set => set []
  | .entries => pairs []
  | _ => list []

/-- Whether a value can be a key. -/
def isPlain : Value → Bool
  | plain .. => true
  | _ => false

/-- The data of a value, given the data of the nodes that are its parts. -/
def data (part : Place → Data) : Value → Data
  | plain data _ => data
  | list elements => .list (elements.map part)
  | set elements => .set (elements.map part)
  | pairs entries => .list (entries.map fun entry => .pair (part entry.1) (part entry.2))
  | mapping entries => .mapping (entries.map fun entry => (part entry.1, part entry.2))

/-- A collection without its parts, or a plain value. -/
def withoutParts : Value → Value
  | plain data single => plain data single
  | list _ => list []
  | set _ => set []
  | pairs _ => pairs []
  | mapping _ => mapping []

end Value

/-! ## Scalars -/

namespace Graph

/-- The text of a node where a scalar is wanted: its own, or that of the value which its entries
have under the key `=`. -/
def scalarTextWithin (graph : Graph) : Nat → Place → Except MarkupFault CodeText
  | 0, _ => .error .endless
  | bound + 1, place =>
      match graph.content place with
      | .scalar text => .ok text
      | .sequence _ => .error .form
      | .mapping entries =>
          match entries.find? fun entry => graph.tag entry.1 == .value with
          | some entry => scalarTextWithin graph bound entry.2
          | none => .error .form

/-- The text of a node where a scalar is wanted. -/
def scalarText (graph : Graph) (place : Place) : Except MarkupFault CodeText :=
  graph.scalarTextWithin (graph.size + 1) place

/-- The moment of a node, which must not have it among entries. -/
def moment (graph : Graph) (place : Place) (text : CodeText) : Except LiteralFault Moment :=
  if (graph.entries? place).isSome then .error .momentEntries else readMoment text

/-- The plain value of a node. -/
def plainValue (graph : Graph) (place : Place) : Except MarkupFault Value := do
  let plain (data : Data) : Value := .plain data false
  let literal {α : Type} (outcome : Except LiteralFault α) : Except MarkupFault α :=
    outcome.mapError .literal
  match graph.tag place with
  | .null => do
      let _ ← graph.scalarText place
      return plain .null
  | .truth => return plain (.boolean (← literal (readTruth (← graph.scalarText place))))
  | .integer => return plain (.integer (← literal (readInteger (← graph.scalarText place))))
  | .real =>
      let text ← graph.scalarText place
      let value ← literal (readReal text)
      return .plain (.real value) (value == .undefined && !isUndefinedWord text)
  | .binary => return plain (.bytes (← readBinary (← graph.scalarText place)))
  | .moment =>
      return plain (.moment (← literal (graph.moment place (← graph.scalarText place))))
  | .text => return plain (.text (← graph.scalarText place))
  | _ => throw .form

end Graph

/-! ## Keys -/

/-- The number a plain value is equal to, if there is one. -/
def numberOf? : Data → Option (Int ⊕ Real)
  | .boolean value => some (.inl (if value then 1 else 0))
  | .integer value => some (.inl value)
  | .real value =>
      match value.toInt? with
      | some whole => some (.inl whole)
      | none => some (.inr value)
  | _ => none

/-- Whether two plain values are the same key. -/
def sameKey : Data → Data → Bool
  | .text left, .text right => left == right
  | .null, .null => true
  | .bytes left, .bytes right => left == right
  | .moment left, .moment right => left.same right
  | left, right =>
      match numberOf? left, numberOf? right with
      | some left, some right => left == right
      | _, _ => false

/-! ## Filling collections -/

/-- The nodes of a document with the values of those that have been met. -/
structure Heap where
  graph : Graph
  /-- The value of each node that has been met. -/
  values : Array (Option Value)
  /-- The collections that are to be filled after those of this level, the latest first. -/
  pending : List Place := []

namespace Heap

/-- The nodes of a document, none of which has been met. -/
def ofGraph (graph : Graph) : Heap :=
  { graph, values := Array.replicate graph.size none }

/-- The value of a node. -/
def value? (heap : Heap) (place : Place) : Option Value :=
  heap.values[place]?.join

/-- Give a node its value. -/
def setValue (heap : Heap) (place : Place) (value : Value) : Heap :=
  { heap with values := heap.values.setIfInBounds place (some value) }

/-- Meet a node. -/
def meet (heap : Heap) (place : Place) : Except MarkupFault Heap :=
  if (heap.value? place).isSome then .ok heap
  else
    let tag := heap.graph.tag place
    if tag.isCollection then
      .ok { heap.setValue place (.ofTag tag) with pending := place :: heap.pending }
    else heap.setValue place <$> heap.graph.plainValue place

/-- Whether two nodes are the same key. -/
def isSameKey (heap : Heap) (left right : Place) : Bool :=
  left == right ||
    match heap.value? left, heap.value? right with
    | some (.plain left false), some (.plain right false) => sameKey left right
    | _, _ => false

/-- Put an entry into a mapping; the value of a key that is there is replaced. -/
def putEntry (heap : Heap) (key value : Place) : List (Place × Place) → List (Place × Place)
  | [] => [(key, value)]
  | (held, old) :: rest =>
      if heap.isSameKey held key then (held, value) :: rest
      else (held, old) :: putEntry heap key value rest

/-- Meet the two nodes of an entry of a mapping, and put it in.  A key must be plain. -/
def meetEntry (state : Heap × List (Place × Place)) (entry : Place × Place) :
    Except MarkupFault (Heap × List (Place × Place)) := do
  let heap ← state.1.meet entry.1
  if (heap.value? entry.1).any Value.isPlain then
    let heap ← heap.meet entry.2
    return (heap, heap.putEntry entry.1 entry.2 state.2)
  else throw .form

/-- Meet the nodes of a mapping. -/
def meetEntries (heap : Heap) (place : Place) : Except MarkupFault (Heap × List (Place × Place)) :=
  if (heap.graph.entries? place).isSome then do
    let graph ← heap.graph.flatten place
    ((graph.entries? place).getD []).foldlM meetEntry ({ heap with graph }, [])
  else .error .form

/-- Meet the two nodes of a mapping that has one entry. -/
def meetPair (state : Heap × List (Place × Place)) (place : Place) :
    Except MarkupFault (Heap × List (Place × Place)) :=
  match state.1.graph.entries? place with
  | some [(key, value)] => do
      let heap ← (← state.1.meet key).meet value
      return (heap, state.2 ++ [(key, value)])
  | _ => .error .form

/-- The nodes of a sequence. -/
def elements (heap : Heap) (place : Place) : Except MarkupFault (List Place) :=
  match heap.graph.content place with
  | .sequence elements => .ok elements
  | _ => .error .form

/-- Fill a collection. -/
def fill (heap : Heap) (place : Place) : Except MarkupFault Heap :=
  match heap.graph.tag place with
  | .mapping => do
      let (heap, entries) ← heap.meetEntries place
      return heap.setValue place (.mapping entries)
  | .set => do
      let (heap, entries) ← heap.meetEntries place
      return heap.setValue place (.set (entries.map Prod.fst))
  | .entries => do
      let (heap, entries) ← (← heap.elements place).foldlM meetPair (heap, [])
      return heap.setValue place (.pairs entries)
  | _ => do
      let elements ← heap.elements place
      let heap ← elements.foldlM meet heap
      return heap.setValue place (.list elements)

/-- Fill collections level by level. -/
def fillWithin : Nat → Heap → Except MarkupFault Heap
  | 0, heap => .ok heap
  | bound + 1, heap =>
      if heap.pending = [] then .ok heap
      else do
        let next ← heap.pending.reverse.foldlM fill { heap with pending := [] }
        fillWithin bound next

/-- Meet a node and all that it is made of. -/
def build (graph : Graph) (root : Place) : Except MarkupFault Heap := do
  fillWithin (graph.size + 1) (← (ofGraph graph).meet root)

/-- The data of a node, where the collections have no parts below a number of levels. -/
def data (heap : Heap) : Nat → Place → Data
  | 0, place => ((heap.value? place).map (·.withoutParts.data fun _ => .null)).getD .null
  | depth + 1, place => ((heap.value? place).map (·.data (data heap depth))).getD .null

end Heap

end SchemaDecl.Markup

namespace SchemaDecl

/-- The data that a source stands for, down to a number of levels of collections.  Without a
document it is the absent value. -/
def Data.ofMarkup (depth : Nat) (source : Markup.Source) : Except MarkupFault Data := do
  match ← Markup.Graph.ofSource source with
  | (_, none) => return .null
  | (graph, some root) => return (← Markup.Heap.build graph root).data depth root

end SchemaDecl
