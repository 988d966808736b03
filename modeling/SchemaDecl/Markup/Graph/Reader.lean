import SchemaDecl.Markup.Graph
import SchemaDecl.Markup.Layout

/-!
# Reading a document

A document is one node.  An alias stands for the node that carries the anchor of that name, which
must begin before it.  Where a node is left out, there is an empty scalar.  The text is read no
further than it takes to decide what comes next, so of several faults the first one counts.
-/

namespace SchemaDecl.Markup

/-! ## Tokens -/

/-- What has to be known to read a node. -/
structure ReaderState where
  layout : Layout
  graph : Graph := {}
  /-- The places of the nodes with anchors. -/
  anchors : List (List Char × Place) := []
  /-- What the handles of tags stand for. -/
  handles : List (List Char × List Char) := []

/-- A reader of nodes. -/
abbrev Reader (α : Type) := StateT ReaderState (Except MarkupFault) α

namespace Reader

/-- The text is no markup. -/
def refuse {α : Type} : Reader α :=
  throw .form

/-- Refuse the text unless a condition holds. -/
def require (holds : Bool) : Reader Unit := do
  unless holds do refuse

/-- The next token, unless the text has ended. -/
def peek : Reader (Option Token) := do
  let layout ← (← get).layout.ready
  modify fun state => { state with layout }
  return layout.queue.head?

/-- Pass over the next token. -/
def advance : Reader Unit :=
  modify fun state => { state with layout := state.layout.next }

/-- Pass over a token if it is the next one, and tell whether it was. -/
def skip (token : Token) : Reader Bool := do
  if (← peek) = some token then
    advance
    return true
  else return false

/-- Pass over a token. -/
def expect (token : Token) : Reader Unit := do
  require (← skip token)

/-- Whether the next token is one of some. -/
def atOneOf (tokens : List Token) : Reader Bool := do
  return (← peek).any tokens.contains

/-! ## Nodes of the graph -/

/-- Add a node. -/
def addNode (node : Node) : Reader Place := do
  let graph := (← get).graph
  modify fun state => { state with graph := graph.add node }
  return graph.size

/-- Add the node that is left out. -/
def addEmpty : Reader Place :=
  addNode .empty

/-- The node at a place gets its content. -/
def complete (place : Place) (content : Content) : Reader Place := do
  modify fun state => { state with graph := state.graph.setContent place content }
  return place

/-! ## Properties -/

/-- The tag and the anchor of a node.  An exclamation mark alone is a tag that leaves the kind of
value to the form of the node. -/
structure Properties where
  tag : Option (List Char) := none
  anchor : Option (List Char) := none

/-- The handles that need no declaration. -/
def defaultHandles : List (List Char × List Char) :=
  [("!".toList, "!".toList), ("!!".toList, "tag:yaml.org,2002:".toList)]

/-- The tag that a handle and a suffix stand for. -/
def fullTag : Option (List Char) × List Char → Reader (List Char)
  | (none, suffix) => return suffix
  | (some handle, suffix) => do
      match ((← get).handles ++ defaultHandles).lookup handle with
      | none => refuse
      | some start => return start ++ suffix

/-- Read a tag, if there is one. -/
def readTag : Reader (Option (Option (List Char) × List Char)) := do
  match ← peek with
  | some (.tag handle suffix) =>
      advance
      return some (handle, suffix)
  | _ => return none

/-- Read an anchor, if there is one. -/
def readAnchor : Reader (Option (List Char)) := do
  match ← peek with
  | some (.anchor name) =>
      advance
      return some name
  | _ => return none

/-- Read a tag and an anchor in either order. -/
def readProperties : Reader Properties := do
  match ← readAnchor with
  | some anchor =>
      let tag ← readTag
      return { tag := ← tag.mapM fullTag, anchor := some anchor }
  | none =>
      let tag ← readTag
      let anchor ← if tag.isSome then readAnchor else pure none
      return { tag := ← tag.mapM fullTag, anchor }

namespace Properties

/-- Whether a node has a property. -/
def isPresent (properties : Properties) : Bool :=
  properties.tag.isSome || properties.anchor.isSome

/-- The tag of a collection. -/
def tagOr (properties : Properties) (default : Tag) : Tag :=
  match properties.tag with
  | none => default
  | some name => if name = ['!'] then default else Tag.ofName name

/-- The tag of a scalar.  One that is not plain is a text if it carries no tag. -/
def scalarTag (properties : Properties) (plain : Bool) (text : CodeText) : Tag :=
  match properties.tag with
  | none => if plain then Tag.ofPlain text.replaced else .text
  | some name => if name = ['!'] then Tag.ofPlain text.replaced else Tag.ofName name

end Properties

/-- The anchor of a node must be new. -/
def checkAnchor (properties : Properties) : Reader Unit := do
  let anchors := (← get).anchors
  require (properties.anchor.all fun name => (anchors.lookup name).isNone)

/-- Add a node under its anchor. -/
def addAnchored (properties : Properties) (node : Node) : Reader Place := do
  let place ← addNode node
  match properties.anchor with
  | none => return place
  | some name =>
      modify fun state => { state with anchors := (name, place) :: state.anchors }
      return place

/-- Add a sequence without elements. -/
def addSequence (properties : Properties) : Reader Place := do
  checkAnchor properties
  addAnchored properties ⟨properties.tagOr .sequence, .sequence []⟩

/-- Add a mapping without entries. -/
def addMapping (properties : Properties) : Reader Place := do
  checkAnchor properties
  addAnchored properties ⟨properties.tagOr .mapping, .mapping []⟩

/-- Add a scalar. -/
def addScalar (properties : Properties) (plain : Bool) (text : CodeText) : Reader Place := do
  checkAnchor properties
  addAnchored properties ⟨properties.scalarTag plain text, .scalar text⟩

/-- Read an alias. -/
def readAlias (name : List Char) : Reader Place := do
  advance
  match (← get).anchors.lookup name with
  | some place => return place
  | none => refuse

/-! ## Content -/

/-- What a node stands in, which decides what it can be. -/
inductive Surrounding where
  | flow
  | block
  /-- A mapping, where a sequence need not be further to the right. -/
  | blockMapping
  deriving DecidableEq

/-- The tokens before which a node of a block mapping is left out. -/
def mappingStops : List Token :=
  [.key, .value, .blockEnd]

/-- The tokens before which an entry of a sequence inside a mapping is left out. -/
def entryStops : List Token :=
  [.entry, .key, .value, .blockEnd]

mutual

/-- Read a node. -/
def readNode (around : Surrounding) : Nat → Reader Place
  | 0 => refuse
  | bound + 1 => do
      match ← peek with
      | some (.alias name) => readAlias name
      | _ => readContent around (← readProperties) bound

/-- Read a node after its properties. -/
def readContent (around : Surrounding) (properties : Properties) : Nat → Reader Place
  | 0 => refuse
  | bound + 1 => do
      match ← peek with
      | some (.scalar plain text) =>
          advance
          addScalar properties plain text
      | some .flowSequenceStart =>
          let place ← addSequence properties
          advance
          complete place (.sequence (← readFlowElements true bound))
      | some .flowMappingStart =>
          let place ← addMapping properties
          advance
          complete place (.mapping (← readFlowEntries true bound))
      | some .sequenceStart =>
          require (around ≠ .flow)
          let place ← addSequence properties
          advance
          let elements ← readEntries [.entry, .blockEnd] bound
          expect .blockEnd
          complete place (.sequence elements)
      | some .mappingStart =>
          require (around ≠ .flow)
          let place ← addMapping properties
          advance
          complete place (.mapping (← readPairs bound))
      | token =>
          if around = .blockMapping ∧ token = some .entry then do
            let place ← addSequence properties
            complete place (.sequence (← readEntries entryStops bound))
          else do
            require properties.isPresent
            addScalar properties true .empty

/-- Read a node, unless one of some tokens comes first. -/
def readOptional (around : Surrounding) (stops : List Token) : Nat → Reader Place
  | 0 => refuse
  | bound + 1 => do
      if ← atOneOf stops then addEmpty else readNode around bound

/-- Read the entries of a block sequence. -/
def readEntries (stops : List Token) : Nat → Reader (List Place)
  | 0 => refuse
  | bound + 1 => do
      if ← skip .entry then
        let first ← readOptional .block stops bound
        let rest ← readEntries stops bound
        return first :: rest
      else return []

/-- Read the entries of a block mapping and its end. -/
def readPairs : Nat → Reader (List (Place × Place))
  | 0 => refuse
  | bound + 1 => do
      if ← skip .key then
        let key ← readOptional .blockMapping mappingStops bound
        let value ←
          if ← skip .value then readOptional .blockMapping mappingStops bound else addEmpty
        let rest ← readPairs bound
        return (key, value) :: rest
      else
        expect .blockEnd
        return []

/-- Read an entry of a flow collection that may have a key: the node before the colon, and the value
if there is one. -/
def readFlowPair (closing : Token) : Nat → Reader (Place × Place)
  | 0 => refuse
  | bound + 1 => do
      let key ← readOptional .flow [.value, .comma, closing] bound
      let value ← if ← skip .value then readOptional .flow [.comma, closing] bound else addEmpty
      return (key, value)

/-- Read the elements of a flow sequence and its end. -/
def readFlowElements (first : Bool) : Nat → Reader (List Place)
  | 0 => refuse
  | bound + 1 => do
      if ← skip .flowSequenceEnd then return []
      unless first do expect .comma
      if ← skip .key then
        let element ← addNode ⟨.mapping, .mapping []⟩
        let pair ← readFlowPair .flowSequenceEnd bound
        let _ ← complete element (.mapping [pair])
        let rest ← readFlowElements false bound
        return element :: rest
      else if ← skip .flowSequenceEnd then return []
      else
        let element ← readNode .flow bound
        let rest ← readFlowElements false bound
        return element :: rest

/-- Read the entries of a flow mapping and its end. -/
def readFlowEntries (first : Bool) : Nat → Reader (List (Place × Place))
  | 0 => refuse
  | bound + 1 => do
      if ← skip .flowMappingEnd then return []
      unless first do expect .comma
      if ← skip .key then
        let pair ← readFlowPair .flowMappingEnd bound
        let rest ← readFlowEntries false bound
        return pair :: rest
      else if ← skip .flowMappingEnd then return []
      else
        let key ← readNode .flow bound
        let value ← addEmpty
        let rest ← readFlowEntries false bound
        return (key, value) :: rest

end

/-! ## Documents -/

/-- A number of steps in which the nodes of a text are read. -/
def stepBound : Reader Nat := do
  return 16 * (← get).layout.bound

/-- Take note of the directives before a document. -/
def readDirectives (versioned : Bool) : Nat → Reader Unit
  | 0 => refuse
  | bound + 1 => do
      match ← peek with
      | some (.directive directive) =>
          advance
          match directive with
          | .version major =>
              require (!versioned && major == 1)
              readDirectives true bound
          | .tag handle start =>
              let handles := (← get).handles
              require (handles.lookup handle).isNone
              modify fun state => { state with handles := (handle, start) :: handles }
              readDirectives versioned bound
          | .other => readDirectives versioned bound
      | _ => return

/-- Pass over the ends of documents. -/
def skipDocumentEnds : Nat → Reader Unit
  | 0 => refuse
  | bound + 1 => do
      if ← skip .documentEnd then skipDocumentEnds bound

/-- Read a line that announces a document, after its directives. -/
def readAnnouncement : Reader Unit := do
  modify fun state => { state with handles := [] }
  readDirectives false (← stepBound)
  expect .documentStart

/-- Nothing may come after the ends of the document.  What comes is read up to the line that
announces another document. -/
def readEnd : Reader Unit := do
  skipDocumentEnds (← stepBound)
  if (← peek).isSome then
    readAnnouncement
    refuse

/-- Whether a document that has been announced has no node. -/
def isBare : Option Token → Bool
  | none | some .documentEnd | some .documentStart | some (.directive _) => true
  | _ => false

/-- Read the node of a document. -/
def readRoot : Reader Place := do
  readNode .block (← stepBound)

/-- Read the only document, if there is one. -/
def readDocument : Reader (Option Place) := do
  match ← peek with
  | none => return none
  | some token =>
      let announced := match token with
        | .directive _ | .documentStart => true
        | _ => false
      let bare ←
        if announced then do
          readAnnouncement
          pure (isBare (← peek))
        else pure false
      let root ← if bare then addEmpty else readRoot
      readEnd
      return some root

end Reader

/-- The nodes of a source, and the place of the one that is the document, if there is one. -/
def Graph.ofSource (source : Source) : Except MarkupFault (Graph × Option Place) := do
  let (root, state) ← Reader.readDocument.run { layout := Layout.start source }
  return (state.graph, root)

end SchemaDecl.Markup
