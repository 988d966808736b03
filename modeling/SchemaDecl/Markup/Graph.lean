import SchemaDecl.Markup.Tag
import SchemaDecl.Text.CodePoint

/-!
# Graphs of nodes

A document is made of nodes: scalars, sequences and mappings, each with a tag.  The parts of a node
are given by their places in the graph, so that a node can be part of several others, and even of
itself.
-/

namespace SchemaDecl.Markup

/-- The place of a node in a graph. -/
abbrev Place := Nat

/-- What a node consists of. -/
inductive Content where
  | scalar (text : CodeText)
  | sequence (elements : List Place)
  | mapping (entries : List (Place × Place))
  deriving DecidableEq, Repr

/-- A node of a document. -/
structure Node where
  tag : Tag
  content : Content
  deriving DecidableEq, Repr

/-- The node that is left out. -/
def Node.empty : Node :=
  ⟨.null, .scalar .empty⟩

/-- The nodes of a document. -/
structure Graph where
  nodes : Array Node := #[]
  deriving Repr

namespace Graph

/-- The number of nodes, which is the place of the next one. -/
def size (graph : Graph) : Nat :=
  graph.nodes.size

/-- The node at a place. -/
def node (graph : Graph) (place : Place) : Node :=
  graph.nodes[place]?.getD .empty

/-- The tag of the node at a place. -/
def tag (graph : Graph) (place : Place) : Tag :=
  (graph.node place).tag

/-- The content of the node at a place. -/
def content (graph : Graph) (place : Place) : Content :=
  (graph.node place).content

/-- Add a node at the next place. -/
def add (graph : Graph) (node : Node) : Graph :=
  ⟨graph.nodes.push node⟩

/-- Give the node at a place another tag. -/
def setTag (graph : Graph) (place : Place) (tag : Tag) : Graph :=
  ⟨graph.nodes.modify place fun node => { node with tag }⟩

/-- Give the node at a place another content. -/
def setContent (graph : Graph) (place : Place) (content : Content) : Graph :=
  ⟨graph.nodes.modify place fun node => { node with content }⟩

/-- The entries of the mapping at a place. -/
def entries? (graph : Graph) (place : Place) : Option (List (Place × Place)) :=
  match graph.content place with
  | .mapping entries => some entries
  | _ => none

@[simp] theorem size_add (graph : Graph) (node : Node) :
    (graph.add node).size = graph.size + 1 := by
  simp [size, add]

@[simp] theorem node_add_size (graph : Graph) (node : Node) :
    (graph.add node).node graph.size = node := by
  simp [Graph.node, add, size]

@[simp] theorem size_setContent (graph : Graph) (place : Place) (content : Content) :
    (graph.setContent place content).size = graph.size := by
  simp [size, setContent]

@[simp] theorem size_setTag (graph : Graph) (place : Place) (tag : Tag) :
    (graph.setTag place tag).size = graph.size := by
  simp [size, setTag]

end Graph

end SchemaDecl.Markup
