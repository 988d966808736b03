import SchemaDecl.Console.Action
import SchemaDecl.Console.Emoji
import SchemaDecl.Console.Styled
import SchemaDecl.Text.Quoted

/-!
# Texts with tags

A tag in brackets opens or closes a style and is not printed itself.  An opening tag has the
description of the style and can have parameters after an equals sign; a closing tag starts with a
slash and closes the latest open tag of its style, or the latest of all if it names none.  Tags may
overlap, and need not be closed.  A bracket that a backslash stands before is a plain character, and
so is one that begins no tag.
-/

namespace SchemaDecl.Console

/-- Why a text with tags cannot be printed. -/
inductive TagFault where
  /-- A closing tag has nothing to close. -/
  | unopened
  /-- The parameters of an action are none. -/
  | action
  /-- A style cannot be read. -/
  | style (fault : StyleFault)

/-- The message of a fault, which is empty for some. -/
def TagFault.message : TagFault → String
  | style (.number text) => "invalid literal for int() with base 10: " ++ Text.quoted text
  | style .word | unopened | action => ""

/-- A part of a text with tags. -/
inductive TaggedPart where
  | plain (text : List Char)
  | tag (name : List Char) (parameters : Option (List Char))
  deriving DecidableEq, Repr

/-! ## Parts -/

/-- Whether a character can stand first in a tag. -/
def startsTag (char : Char) : Bool :=
  ('a' ≤ char && char ≤ 'z') || char == '#' || char == '/' || char == '@'

/-- The inner text of the tag that a text begins with. -/
def tagText? : List Char → Option (List Char)
  | '[' :: first :: rest =>
      let inner := rest.takeWhile fun char => char != '[' && char != ']'
      if startsTag first && rest[inner.length]? == some ']' then some (first :: inner) else none
  | _ => none

/-- The tag of an inner text. -/
def tagOf (inner : List Char) : TaggedPart :=
  let name := inner.takeWhile (· != '=')
  .tag name (if name.length < inner.length then some (inner.drop (name.length + 1)) else none)

/-- The plain part of some characters, if there are any. -/
def plainPart (text : List Char) : List TaggedPart :=
  if text = [] then [] else [.plain text]

/-- The parts that a tag with backslashes before it stands for.  Two backslashes stand for one, and
one that is left over makes the tag plain. -/
def escapedParts (backslashes : Nat) (inner : List Char) : List TaggedPart :=
  plainPart (List.replicate (backslashes / 2) '\\') ++
    [if backslashes % 2 = 1 then .plain ('[' :: inner ++ [']']) else tagOf inner]

/-- The parts of a text, given the beginning of the first.  The first `skip` characters have been
read. -/
def partsFrom (skip : Nat) (plain : List Char) : List Char → List TaggedPart
  | [] => plainPart plain
  | char :: rest =>
      match skip with
      | skip + 1 => partsFrom skip plain rest
      | 0 =>
          let backslashes := ((char :: rest).takeWhile (· == '\\')).length
          match tagText? ((char :: rest).drop backslashes) with
          | some inner =>
              plainPart plain ++ escapedParts backslashes inner ++
                partsFrom (backslashes + inner.length + 1) [] rest
          | none => partsFrom 0 (plain ++ [char]) rest

/-- The parts of a text. -/
def taggedParts (text : List Char) : List TaggedPart :=
  partsFrom 0 [] text

/-! ## Plain parts -/

/-- A text without the backslashes before brackets. -/
def unescape : List Char → List Char
  | [] => []
  | '\\' :: '[' :: rest => '[' :: unescape rest
  | char :: rest => char :: unescape rest

/-- Whether a character would move the place where the next one is printed. -/
def isMoving (char : Char) : Bool :=
  [7, 8, 11, 12, 13].contains char.toNat

/-- What is printed for a plain part. -/
def shown (text : List Char) : List Char :=
  (withEmoji (unescape text)).filter fun char => !isMoving char

/-! ## Tags -/

/-- A tag that has been opened: the index of the first character behind it, the normal form of its
style, and its parameters. -/
structure OpenTag where
  start : Nat
  style : String
  parameters : Option (List Char)

namespace OpenTag

/-- Whether the tag is one of an action. -/
def isAction (tag : OpenTag) : Bool :=
  tag.style.toList.head? == some '@'

/-- The description of a style that a tag gives together with its parameters. -/
def description (tag : OpenTag) : List Char :=
  match tag.parameters with
  | none => tag.style.toList
  | some parameters => tag.style.toList ++ ' ' :: parameters

/-- The span of a tag that is closed at an index. -/
def closed (tag : OpenTag) (stop : Nat) : Except TagFault Span :=
  if tag.isAction then
    match tag.parameters with
    | none | some [] => .ok { start := tag.start, stop }
    | some parameters =>
        if describesAction (Text.trim parameters) then .ok { start := tag.start, stop }
        else .error .action
  else .ok { start := tag.start, stop, style := some tag.description }

/-- The span of a tag that is still open at the end of the text. -/
def unclosed (tag : OpenTag) (stop : Nat) : Span :=
  { start := tag.start, stop, style := some tag.description }

end OpenTag

/-- The normal form of the style that a tag describes. -/
def styleName (description : List Char) : Except TagFault String :=
  (normalForm description).mapError .style

/-- Choose the open tag that a closing one with a name after its slash is for, and give it together
with the others.  The latest comes first. -/
def choose (opened : List OpenTag) (name : List Char) :
    Except TagFault (OpenTag × List OpenTag) := do
  let name := Text.trim name
  if name = [] then
    match opened with
    | [] => throw .unopened
    | latest :: others => return (latest, others)
  else
    let style ← styleName name
    match opened.find? fun tag => tag.style == style with
    | none => throw .unopened
    | some tag => return (tag, opened.eraseP fun tag => tag.style == style)

/-- A text that is being read: the characters that are printed, the tags that are open, the latest
first, and the spans of those that have been closed, the latest first. -/
structure Reading where
  text : List Char := []
  opened : List OpenTag := []
  closed : List Span := []

/-- Read a part of a text. -/
def Reading.step (reading : Reading) : TaggedPart → Except TagFault Reading
  | .plain text => .ok { reading with text := reading.text ++ shown text }
  | .tag ('/' :: name) _ => do
      let (tag, opened) ← choose reading.opened name
      let span ← tag.closed reading.text.length
      return { reading with opened, closed := span :: reading.closed }
  | .tag name parameters => do
      let tag : OpenTag := ⟨reading.text.length, ← styleName name, parameters⟩
      return { reading with opened := tag :: reading.opened }

/-- What has been read, with the spans in the order of their beginnings.  Of spans with the same
beginning, the one that was closed last comes first. -/
def Reading.result (reading : Reading) : Styled :=
  let remaining := reading.opened.map fun tag => tag.unclosed reading.text.length
  { text := reading.text
    spans := (remaining.reverse ++ reading.closed).mergeSort fun left right =>
      left.start ≤ right.start }

/-- A text with the styles that its tags describe. -/
def tagged (text : List Char) : Except TagFault Styled :=
  Reading.result <$> (taggedParts text).foldlM Reading.step {}

end SchemaDecl.Console
