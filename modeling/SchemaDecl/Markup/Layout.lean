import SchemaDecl.Markup.Form
import SchemaDecl.Markup.Scalar
import SchemaDecl.Markup.Source
import SchemaDecl.Markup.Token
import SchemaDecl.Text.Utf8

/-!
# Layout

The layout of markup says where block collections begin and end.  A collection begins where its
first entry is further to the right than the collection around it, and ends before the first token
that is further to the left.  A node on one line that a colon follows is a key; this is known only
at the colon, so places where a key may begin are remembered, and the tokens for it are put in
there.  Tokens are taken from a queue, and no more of the text is read than is needed to know the
first of them.
-/

namespace SchemaDecl.Markup

/-- A place where a key may begin. -/
structure KeyPlace where
  /-- The number of tokens before it. -/
  count : Nat
  /-- Whether something other than a key would be a fault there. -/
  required : Bool
  index : Nat
  line : Nat
  column : Nat

/-- The state of reading tokens. -/
structure Layout where
  rest : List Char
  /-- What is met at the end of the text, unless it really ends there. -/
  fault : Option MarkupFault
  /-- A number of steps in which the text is read to its end. -/
  bound : Nat
  index : Nat := 0
  line : Nat := 0
  column : Nat := 0
  /-- How many flow collections are open. -/
  flow : Nat := 0
  /-- The columns of the open block collections, the innermost first. -/
  columns : List Nat := []
  /-- Whether a key may begin at the next token. -/
  keyAllowed : Bool := true
  /-- The places where a key may begin, by the number of flow collections around them. -/
  places : List (Nat × KeyPlace) := []
  /-- The tokens that have been read and not taken. -/
  queue : List Token := []
  /-- The number of tokens that have been taken. -/
  taken : Nat := 0
  /-- Whether the text has been read to its end. -/
  done : Bool := false

namespace Layout

/-- The outcome of reading a part of the text. -/
abbrev Outcome (α : Type) := Except MarkupFault α

/-- There is no markup here. -/
def refuse {α : Type} : Outcome α :=
  .error .form

/-- Refuse the text unless a condition holds. -/
def require (holds : Bool) : Outcome Unit :=
  if holds then .ok () else refuse

/-- The state before a source. -/
def start (source : Source) : Layout :=
  { rest := source.text
    fault := source.fault
    bound := source.text.length + 1 }

/-- The column after the one of the innermost block collection. -/
def margin (layout : Layout) : Nat :=
  match layout.columns with
  | [] => 0
  | column :: _ => column + 1

/-- The number of tokens that have been read. -/
def count (layout : Layout) : Nat :=
  layout.taken + layout.queue.length

/-- Pass over one character. -/
def passOne (layout : Layout) (char : Char) (rest : List Char) : Layout :=
  if isBreak char then
    { layout with rest, index := layout.index + 1, line := layout.line + 1, column := 0 }
  else
    { layout with
      rest
      index := layout.index + 1
      column := if char = '\uFEFF' then layout.column else layout.column + 1 }

/-- Pass over a number of characters. -/
def pass : Nat → Layout → Layout
  | 0, layout => layout
  | count + 1, layout =>
      match layout.rest with
      | [] => layout
      | char :: rest => pass count (layout.passOne char rest)

/-- Stop at the end of what can be read, unless the text really ends there. -/
def stopAtFault (layout : Layout) : Outcome Layout :=
  match layout.rest, layout.fault with
  | [], some fault => .error fault
  | _, _ => .ok layout

/-- The number of characters before the next token, and whether there are line ends among them. -/
def gapLength (comment : Bool) : List Char → Nat × Bool
  | [] => (0, false)
  | char :: rest =>
      if isBreak char then ((gapLength false rest).1 + 1, true)
      else if comment ∨ char = ' ' ∨ char = '#' then
        let (count, broken) := gapLength (comment || char == '#') rest
        (count + 1, broken)
      else (0, false)

/-- Go to the next token.  At the beginning of a line a key may begin. -/
def skipGap (layout : Layout) : Outcome Layout :=
  let layout :=
    if layout.index = 0 ∧ layout.rest.head? = some '\uFEFF' then layout.pass 1 else layout
  let (count, broken) := gapLength false layout.rest
  let layout := layout.pass count
  stopAtFault <|
    if broken ∧ layout.flow = 0 then { layout with keyAllowed := true } else layout

/-- Add a token. -/
def push (layout : Layout) (token : Token) : Layout :=
  { layout with queue := layout.queue ++ [token] }

/-- Add a token before the last ones, so that a given number of tokens is before it. -/
def insert (layout : Layout) (count : Nat) (token : Token) : Layout :=
  { layout with queue := layout.queue.insertIdx (count - layout.taken) token }

/-! ## Places of keys -/

/-- Whether a key can still begin at a place: it is on one line and not too far back. -/
def isFresh (layout : Layout) (place : KeyPlace) : Bool :=
  place.line == layout.line && layout.index ≤ place.index + 1024

/-- Forget the places where no key can begin any more. -/
def dropStale (layout : Layout) : Outcome Layout := do
  require (layout.places.all fun entry => !entry.2.required || layout.isFresh entry.2)
  return { layout with places := layout.places.filter fun entry => layout.isFresh entry.2 }

/-- Forget the place of a key among the current flow collections. -/
def dropPlace (layout : Layout) : Outcome Layout :=
  match layout.places.lookup layout.flow with
  | none => .ok layout
  | some place => do
      require !place.required
      return { layout with places := layout.places.filter fun entry => entry.1 != layout.flow }

/-- Remember that a key may begin here. -/
def savePlace (layout : Layout) : Outcome Layout :=
  if layout.keyAllowed then do
    let cleared ← layout.dropPlace
    let place : KeyPlace :=
      { count := layout.count
        required := layout.flow == 0 && layout.columns.head? == some layout.column
        index := layout.index
        line := layout.line
        column := layout.column }
    return { cleared with places := (layout.flow, place) :: cleared.places }
  else .ok layout

/-! ## Block collections -/

/-- Close the block collections that end before the current column. -/
def unwind (layout : Layout) : Layout :=
  if layout.flow = 0 then
    let closed := layout.columns.takeWhile (layout.column < ·)
    { layout with
      columns := layout.columns.drop closed.length
      queue := layout.queue ++ closed.map fun _ => Token.blockEnd }
  else layout

/-- Close all block collections. -/
def unwindAll (layout : Layout) : Layout :=
  if layout.flow = 0 then
    { layout with
      columns := []
      queue := layout.queue ++ layout.columns.map fun _ => Token.blockEnd }
  else layout

/-- Whether a collection at a column is further to the right than all that are open. -/
def isInner (layout : Layout) (column : Nat) : Bool :=
  match layout.columns with
  | [] => true
  | first :: _ => first < column

/-- Open a block collection at the current column, unless one is open there. -/
def openBlock (layout : Layout) (token : Token) : Layout :=
  if layout.flow = 0 ∧ layout.isInner layout.column then
    { layout.push token with columns := layout.column :: layout.columns }
  else layout

/-! ## Tokens -/

/-- Add a token of a number of characters. -/
def take (layout : Layout) (length : Nat) (token : Token) : Outcome Layout :=
  ((layout.push token).pass length).stopAtFault

/-- The end of the text. -/
def readEnd (layout : Layout) : Outcome Layout := do
  let layout ← layout.unwindAll.dropPlace
  return { layout with places := [], done := true }

/-- A line that separates documents. -/
def readSeparator (layout : Layout) (token : Token) : Outcome Layout := do
  let layout ← layout.unwindAll.dropPlace
  { layout with keyAllowed := false }.take 3 token

/-- The beginning of a flow collection. -/
def readOpening (layout : Layout) (token : Token) : Outcome Layout := do
  let layout ← layout.savePlace
  { layout with flow := layout.flow + 1, keyAllowed := true }.take 1 token

/-- The end of a flow collection. -/
def readClosing (layout : Layout) (token : Token) : Outcome Layout := do
  let layout ← layout.dropPlace
  { layout with flow := layout.flow - 1, keyAllowed := false }.take 1 token

/-- A comma between the entries of a flow collection. -/
def readComma (layout : Layout) : Outcome Layout := do
  let layout ← layout.dropPlace
  { layout with keyAllowed := true }.take 1 .comma

/-- The dash before an entry of a sequence. -/
def readEntry (layout : Layout) : Outcome Layout := do
  require (layout.flow != 0 || layout.keyAllowed)
  let layout ← (layout.openBlock .sequenceStart).dropPlace
  { layout with keyAllowed := true }.take 1 .entry

/-- The question mark before a key. -/
def readKey (layout : Layout) : Outcome Layout := do
  require (layout.flow != 0 || layout.keyAllowed)
  let layout ← (layout.openBlock .mappingStart).dropPlace
  { layout with keyAllowed := layout.flow == 0 }.take 1 .key

/-- Make a key of what began at a place. -/
def markKey (layout : Layout) (place : KeyPlace) : Layout :=
  let layout := layout.insert place.count .key
  if layout.flow = 0 ∧ layout.isInner place.column then
    { layout.insert place.count .mappingStart with columns := place.column :: layout.columns }
  else layout

/-- The colon before a value. -/
def readValue (layout : Layout) : Outcome Layout :=
  match layout.places.lookup layout.flow with
  | some place =>
      let layout :=
        { layout with places := layout.places.filter fun entry => entry.1 != layout.flow }
      { layout.markKey place with keyAllowed := false }.take 1 .value
  | none => do
      require (layout.flow != 0 || layout.keyAllowed)
      let layout := layout.openBlock .mappingStart
      { layout with keyAllowed := layout.flow == 0 }.take 1 .value

/-- Something with which a key may begin. -/
def readProperty (layout : Layout) (read : List Char → Outcome (Token × Nat)) :
    Outcome Layout := do
  let layout ← layout.savePlace
  let (token, length) ← read layout.rest
  { layout with keyAllowed := false }.take length token

/-- A block scalar. -/
def readBlock (layout : Layout) (folded : Bool) (rest : List Char) : Outcome Layout := do
  let layout ← layout.dropPlace
  let (text, length) ← (blockScalar folded layout.margin rest).elim refuse .ok
  { layout with keyAllowed := true }.take (length + 1) (.scalar false (.ofChars text))

/-- A plain scalar with the blanks and line ends after it.  After a line end a key may begin. -/
def readPlain (layout : Layout) : Outcome Layout := do
  let layout ← layout.savePlace
  let (text, length) :=
    plainFrom (layout.flow ≠ 0) layout.margin layout.column 0 .none layout.rest
  let layout ← layout.take length (.scalar true (.ofChars text))
  let gap := layout.rest.takeWhile isPlainGap
  { layout.pass gap.length with keyAllowed := gap.any isBreak }.stopAtFault

/-- A quoted scalar, from its quote on. -/
def quotedToken (layout : Layout) (double : Bool) (text : List Char) : Outcome (Token × Nat) :=
  match quotedFrom double 0 .none text.tail with
  | .ok quoted => .ok (.scalar false ⟨quoted.points⟩, quoted.length + 1)
  | .error .unclosed => .error (layout.fault.getD .form)
  | .error (.invalid fault) => .error fault

/-- The name of an anchor, after its sign. -/
def anchorToken (make : List Char → Token) (text : List Char) : Outcome (Token × Nat) := do
  let name := text.tail.takeWhile isWordPart
  let rest := text.tail.drop name.length
  require (!name.isEmpty && (spaceFirst rest || rest.head?.any "?:,]\x7d%@`".toList.contains))
  return (make name, name.length + 1)

/-! ### Tags and directives -/

/-- Characters of a tag. -/
def isTagPart (char : Char) : Bool :=
  char.isAlphanum || "-;/?:@&=+$,_.!~*'()[]".toList.contains char

/-- The byte after a percent sign, in two digits. -/
def tagByte? (digits : List Char) : Option UInt8 :=
  (code? 2 digits).map UInt8.ofNat

/-- The text of the bytes in front of something that is read after them. -/
def withBytes (bytes : List UInt8) (rest : Option (List Char × Nat)) :
    Option (List Char × Nat) := do
  let text ← (Utf8.decode bytes).toOption
  let (later, count) ← rest
  return (text.toList ++ later, count)

/-- Read the characters of a tag and how many there are.  A percent sign and two digits stand for a
byte, and the bytes in a row for a text; `bytes` are those before, and `skip` characters belong to
what has been read. -/
def tagText (bytes : List UInt8) (skip : Nat) : List Char → Option (List Char × Nat)
  | [] => withBytes bytes (some ([], 0))
  | char :: rest =>
      match skip with
      | skip + 1 => (tagText bytes skip rest).map fun result => (result.1, result.2 + 1)
      | 0 =>
          if char = '%' then do
            let byte ← tagByte? (rest.take 2)
            let (text, count) ← tagText (bytes ++ [byte]) 2 rest
            return (text, count + 1)
          else
            withBytes bytes <|
              if isTagPart char then
                (tagText [] 0 rest).map fun result => (char :: result.1, result.2 + 1)
              else some ([], 0)

/-- Read a tag that must not be empty. -/
def someTagText (text : List Char) : Option (List Char × Nat) := do
  let (tag, count) ← tagText [] 0 text
  guard (count ≠ 0)
  return (tag, count)

/-- A handle between two exclamation marks at the head of a text. -/
def tagHandle? (text : List Char) : Option (List Char) :=
  match text with
  | '!' :: rest =>
      let word := rest.takeWhile isWordPart
      if rest[word.length]? = some '!' then some ('!' :: word ++ ['!']) else none
  | _ => none

/-- A tag. -/
def tag? (text : List Char) : Option (Token × Nat) := do
  let (token, length) ← match text.tail with
    | '<' :: rest => do
        let (tag, count) ← someTagText rest
        guard (rest[count]? = some '>')
        pure (Token.tag none tag, count + 3)
    | rest =>
        if spaceFirst rest then pure (Token.tag none ['!'], 1)
        else if (rest.takeWhile fun char => !(char == ' ' || isBreak char)).contains '!' then do
          let handle ← tagHandle? text
          let (tag, count) ← someTagText (text.drop handle.length)
          pure (Token.tag (some handle) tag, handle.length + count)
        else do
          let (tag, count) ← someTagText rest
          pure (Token.tag (some ['!']) tag, count + 1)
  guard (gapFirst (text.drop length))
  return (token, length)

/-- The token of a tag. -/
def tagToken (text : List Char) : Outcome (Token × Nat) :=
  (tag? text).elim refuse .ok

/-- The rest of a line after a directive, of which nothing may be left but a comment. -/
def endsLine (text : List Char) : Bool :=
  match text.dropWhile (· == ' ') with
  | [] => true
  | char :: _ => char == '#' || isBreak char

/-- The number of a version at the head of a text, and what follows it. -/
def versionNumber (text : List Char) : Outcome (Nat × List Char) := do
  let digits := text.takeWhile Char.isDigit
  require !digits.isEmpty
  if LiteralFault.digitLimit < digits.length then throw (.literal (.manyDigits digits.length))
  return (decimalValue digits, text.drop digits.length)

/-- The version in a directive, and what follows it. -/
def versionDirective (text : List Char) : Outcome (Directive × List Char) := do
  let (major, rest) ← versionNumber (text.dropWhile (· == ' '))
  require (rest.head? == some '.')
  let (_, rest) ← versionNumber rest.tail
  require (gapFirst rest)
  return (.version major, rest)

/-- The handle in a directive: an exclamation mark, alone or at both ends of a word. -/
def directiveHandle? (text : List Char) : Option (List Char) :=
  (tagHandle? text).or (if text.head? = some '!' ∧ text[1]? = some ' ' then some ['!'] else none)

/-- The tag handle in a directive with what it stands for, and what follows. -/
def tagDirective? (text : List Char) : Option (Directive × List Char) := do
  let text := text.dropWhile (· == ' ')
  let handle ← directiveHandle? text
  let rest := text.drop handle.length
  guard (rest.head? = some ' ')
  let rest := rest.dropWhile (· == ' ')
  let (tag, count) ← someTagText rest
  guard (gapFirst (rest.drop count))
  return (.tag handle tag, rest.drop count)

/-- A directive, after its sign, and what follows it. -/
def directiveOf (text : List Char) : Outcome (Directive × List Char) := do
  let name := text.takeWhile isWordPart
  let rest := text.drop name.length
  require (!name.isEmpty && gapFirst rest)
  if name = "YAML".toList then versionDirective rest
  else if name = "TAG".toList then (tagDirective? rest).elim refuse .ok
  else return (.other, rest.dropWhile fun char => !isBreak char)

/-- A directive. -/
def readDirective (layout : Layout) (rest : List Char) : Outcome Layout := do
  let layout ← layout.unwindAll.dropPlace
  let (directive, after) ← directiveOf rest
  require (endsLine after)
  let line := rest.takeWhile fun char => !isBreak char
  { layout with keyAllowed := false }.take (line.length + 1) (.directive directive)

/-! ### The next token -/

/-- Whether a plain scalar may start with a character. -/
def startsPlain (layout : Layout) (char : Char) (rest : List Char) : Bool :=
  !(isSpace char || "-?:,[]\x7b\x7d#&*!|>'\"%@`".toList.contains char) ||
    (!spaceFirst rest && (char == '-' || (layout.flow == 0 && (char == '?' || char == ':'))))

/-- Read the token that starts with a character. -/
def readToken (layout : Layout) (char : Char) (rest : List Char) : Outcome Layout :=
  let atStart := layout.column == 0
  let separated := layout.flow ≠ 0 || spaceFirst rest
  if char = '%' ∧ atStart then layout.readDirective rest
  else if atStart ∧ startsSeparator layout.rest then
    layout.readSeparator (if char = '-' then .documentStart else .documentEnd)
  else if char = '[' then layout.readOpening .flowSequenceStart
  else if char = '\x7b' then layout.readOpening .flowMappingStart
  else if char = ']' then layout.readClosing .flowSequenceEnd
  else if char = '\x7d' then layout.readClosing .flowMappingEnd
  else if char = ',' then layout.readComma
  else if char = '-' ∧ spaceFirst rest then layout.readEntry
  else if char = '?' ∧ separated then layout.readKey
  else if char = ':' ∧ separated then layout.readValue
  else if char = '*' then layout.readProperty (anchorToken .alias)
  else if char = '&' then layout.readProperty (anchorToken .anchor)
  else if char = '!' then layout.readProperty tagToken
  else if char = '|' ∧ layout.flow = 0 then layout.readBlock false rest
  else if char = '>' ∧ layout.flow = 0 then layout.readBlock true rest
  else if char = '\'' then layout.readProperty (layout.quotedToken false)
  else if char = '"' then layout.readProperty (layout.quotedToken true)
  else if layout.startsPlain char rest then layout.readPlain
  else refuse

/-- Go to the next token and read it. -/
def step (layout : Layout) : Outcome Layout := do
  let layout ← layout.skipGap
  let layout := (← layout.dropStale).unwind
  match layout.rest with
  | [] => layout.readEnd
  | char :: rest => layout.readToken char rest

/-! ## The queue -/

/-- Whether the first token in the queue could still become part of a key. -/
def mayBeKey (layout : Layout) : Bool :=
  layout.places.any fun entry => entry.2.count == layout.taken

/-- Read tokens until the first one in the queue is known.  Each step but the last passes over a
character. -/
def readyWithin : Nat → Layout → Outcome Layout
  | 0, layout => .ok layout
  | bound + 1, layout =>
      if layout.done then .ok layout
      else if layout.queue = [] then layout.step >>= readyWithin bound
      else do
        let layout ← layout.dropStale
        if layout.mayBeKey then layout.step >>= readyWithin bound else .ok layout

/-- Read tokens until the first one in the queue is known. -/
def ready (layout : Layout) : Outcome Layout :=
  readyWithin layout.bound layout

/-- Take the first token out of the queue. -/
def next (layout : Layout) : Layout :=
  { layout with
    queue := layout.queue.tail
    taken := layout.taken + (if layout.queue = [] then 0 else 1) }

end Layout

end SchemaDecl.Markup
