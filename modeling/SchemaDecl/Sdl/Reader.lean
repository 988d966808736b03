import SchemaDecl.Sdl.Fault

/-!
# Readers over tokens

A reader takes tokens from the front and yields a value or a fault.  The current token is always
known: passing over a token that is followed by characters without a token is itself a fault.  Lists
are read with as many rounds as there are tokens left, which is enough because each round takes one.
-/

namespace SchemaDecl.Sdl

namespace Tokens

/-- The tokens, unless they start with a lexical fault. -/
def checkHead (tokens : Tokens) : Except Fault Tokens :=
  match tokens.items, tokens.ending.fault with
  | [], some fault => .error ⟨.lexical fault, tokens.ending.offset⟩
  | _, _ => .ok tokens

/-- The tokens after the current one. -/
def tail (tokens : Tokens) : Except Fault Tokens :=
  checkHead { tokens with items := tokens.items.tail }

end Tokens

/-- A reader takes tokens from the front and yields a value or a fault. -/
abbrev Reader (α : Type) := StateT Tokens (Except Fault) α

namespace Reader

/-- Fail at the current token. -/
def fail {α : Type} (cause : Cause) : Reader α := fun tokens =>
  .error ⟨cause, tokens.offset⟩

/-- The offset of the current token. -/
def place : Reader Nat := fun tokens =>
  .ok (tokens.offset, tokens)

/-- Fail at an offset. -/
def failAt {α : Type} (offset : Nat) (cause : Cause) : Reader α := fun _ =>
  .error ⟨cause, offset⟩

/-- The current token, or none at the end. -/
def head : Reader (Option Lexeme) := fun tokens =>
  .ok (tokens.head?, tokens)

/-- Fail because nothing goes on with the current token. -/
def unexpected {α : Type} : Reader α := do
  fail (.unexpected (← head))

/-- Pass over the current token. -/
def advance : Reader Unit := fun tokens =>
  tokens.tail.map fun rest => ((), rest)

/-- The tokens after the current one, which stays. -/
def lookahead : Reader Tokens := fun tokens =>
  tokens.tail.map fun rest => (rest, tokens)

/-- Whether the current token is a punctuation mark. -/
def peekMark (mark : Mark) : Reader Bool := do
  return (← head) == some (.mark mark)

/-- Pass over a punctuation mark if it is the current token, and tell whether it was. -/
def skipMark (mark : Mark) : Reader Bool := do
  if ← peekMark mark then
    advance
    return true
  else return false

/-- Pass over a punctuation mark. -/
def expectMark (mark : Mark) : Reader Unit := do
  unless ← skipMark mark do
    fail (.expected (Lexeme.mark mark).describe (← head))

/-- Pass over a name with the given text if it is the current token, and tell whether it was. -/
def skipKeyword (word : String) : Reader Bool := do
  if (← head) = some (.name word) then
    advance
    return true
  else return false

/-- Pass over a name with the given text. -/
def expectKeyword (word : String) : Reader Unit := do
  unless ← skipKeyword word do
    fail (.expected ("'" ++ word ++ "'") (← head))

/-- Read a name. -/
def name : Reader String := do
  match ← head with
  | some (.name text) =>
      advance
      return text
  | found => fail (.expected "Name" found)

/-- Read nothing more. -/
def finish : Reader Unit := do
  match ← head with
  | none => return ()
  | found => fail (.expected endName found)

/-- The number of rounds that suffices for a list: one for each token, and one for the end. -/
def rounds : Reader Nat := fun tokens =>
  .ok (tokens.items.length + 1, tokens)

/-- Read elements until `ends` finds the end of the list, at least one of them. -/
def elementsUntil {α : Type} (ends : Reader Bool) (element : Reader α) : Nat → Reader (List α)
  | 0 => unexpected
  | bound + 1 => do
      let first ← element
      if ← ends then return [first]
      let rest ← elementsUntil ends element bound
      return first :: rest

/-- Read elements while `starts` finds the start of one. -/
def elementsWhile {α : Type} (starts : Reader Bool) (element : Reader α) : Nat → Reader (List α)
  | 0 => unexpected
  | bound + 1 => do
      if ← starts then
        let first ← element
        let rest ← elementsWhile starts element bound
        return first :: rest
      else return []

/-- Read one or more elements up to a closing mark. -/
def someBefore {α : Type} (closing : Mark) (element : Reader α) : Reader (List α) := do
  elementsUntil (skipMark closing) element (← rounds)

/-- Read one or more elements between two marks. -/
def someBetween {α : Type} (opening closing : Mark) (element : Reader α) : Reader (List α) := do
  expectMark opening
  someBefore closing element

/-- Read one or more elements between two marks, or nothing if the opening mark is absent. -/
def optionalBetween {α : Type} (opening closing : Mark) (element : Reader α) :
    Reader (List α) := do
  if ← skipMark opening then someBefore closing element else return []

/-- Read any number of elements between two marks. -/
def anyBetween {α : Type} (opening closing : Mark) (element : Reader α) : Reader (List α) := do
  expectMark opening
  elementsWhile (not <$> skipMark closing) element (← rounds)

/-- Read one or more elements with a mark between them, which may also stand before the first. -/
def separatedBy {α : Type} (separator : Mark) (element : Reader α) : Reader (List α) := do
  let _ ← skipMark separator
  elementsUntil (not <$> skipMark separator) element (← rounds)

/-- Read elements as long as each starts with a mark. -/
def whileMark {α : Type} (mark : Mark) (element : Reader α) : Reader (List α) := do
  elementsWhile (peekMark mark) element (← rounds)

/-- Apply a reader to a whole text. -/
def run {α : Type} (reader : Reader α) (tokens : Tokens) : Except Fault α := do
  let tokens ← tokens.checkHead
  let (value, _) ← reader tokens
  return value

end Reader

end SchemaDecl.Sdl
