import SchemaDecl.Console.EmojiTable
import SchemaDecl.Text.Blank
import SchemaDecl.Text.Case

/-!
# Emoji by name

A name between two colons stands for an emoji.  The name may end with a word that tells whether the
emoji is to look like one or like a plain character.
-/

namespace SchemaDecl.Console

/-- The emoji of a name in lower case. -/
def emoji? (name : List Char) : Option (List Char) :=
  (emojiNames.flatMap fun line => line.toList.splitOn ' ').findSome? fun entry =>
    let key := entry.takeWhile (· != '=')
    if key = name then some (entry.drop (key.length + 1)) else none

/-- The ends of names that choose a look, and the characters that do so after an emoji. -/
def looks : List (List Char × Char) :=
  [("-emoji".toList, '\uFE0F'), ("-text".toList, '\uFE0E')]

/-- A name without the choice of a look, and the characters that choose it. -/
def splitLook (name : List Char) : List Char × List Char :=
  match looks.find? fun look => look.1.isSuffixOf name with
  | some (ending, mark) => (name.take (name.length - ending.length), [mark])
  | none => (name, [])

/-- The name at the head of a text, if a colon comes before any blank. -/
def emojiName? (text : List Char) : Option (List Char) :=
  let name := text.takeWhile fun char => char != ':' && !Text.isBlankChar char
  if text[name.length]? = some ':' then some name else none

/-- What a name between colons stands for: an emoji, or itself. -/
def emojiOr (name : List Char) : List Char :=
  let (plain, mark) := splitLook name
  match emoji? (Text.lowered plain) with
  | some emoji => emoji ++ mark
  | none => ':' :: name ++ [':']

/-- A text with emoji in the places of their names.  The first `skip` characters have been read. -/
def withEmojiFrom (skip : Nat) : List Char → List Char
  | [] => []
  | char :: rest =>
      match skip with
      | skip + 1 => withEmojiFrom skip rest
      | 0 =>
          if char = ':' then
            match emojiName? rest with
            | some name => emojiOr name ++ withEmojiFrom (name.length + 1) rest
            | none => char :: withEmojiFrom 0 rest
          else char :: withEmojiFrom 0 rest

/-- A text with emoji in the places of their names. -/
def withEmoji (text : List Char) : List Char :=
  withEmojiFrom 0 text

end SchemaDecl.Console
