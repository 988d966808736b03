import SchemaDecl.Console.ColourTable
import SchemaDecl.Text.Blank
import SchemaDecl.Text.Case
import SchemaDecl.Text.Digit

/-!
# Styles of texts on the console

A style is described in words: attributes, a colour, a colour of the ground after `on`, and the
address of a link.  Two descriptions are of one style if they have the same normal form, in which
the attributes come first, in a fixed order and under their full names.
-/

namespace SchemaDecl.Console

/-- The attributes in the order of the normal form, each with the words for it. -/
def attributes : List (String × List String) :=
  [("bold", ["bold", "b"]), ("dim", ["dim", "d"]), ("italic", ["italic", "i"]),
   ("underline", ["underline", "u"]), ("blink", ["blink"]), ("blink2", ["blink2"]),
   ("reverse", ["reverse", "r"]), ("conceal", ["conceal", "c"]), ("strike", ["strike", "s"]),
   ("underline2", ["underline2", "uu"]), ("frame", ["frame"]), ("encircle", ["encircle"]),
   ("overline", ["overline", "o"])]

/-- The attribute that a word is for. -/
def attribute? (word : String) : Option String :=
  (attributes.find? fun entry => entry.2.contains word).map Prod.fst

/-- A style. -/
structure Style where
  /-- The attributes that are set, and those that are taken back, the latest first. -/
  set : List (String × Bool) := []
  colour : Option String := none
  ground : Option String := none
  link : Option String := none

/-- Why a description is none of a style. -/
inductive StyleFault where
  /-- A word has no meaning where it stands. -/
  | word
  /-- A part of a colour is no number. -/
  | number (text : String)

/-! ## Colours -/

/-- The parts of a colour between brackets after a name. -/
def bracketed? (name : String) (word : List Char) : Option (List Char) :=
  let start := name.toList ++ ['(']
  if start.isPrefixOf word && word.getLast? == some ')' then
    some ((word.drop start.length).dropLast)
  else none

/-- The number in decimal digits of any script. -/
def number? (digits : List Char) : Option Nat :=
  if digits = [] then none
  else digits.foldlM (fun number digit => (Text.digitValue? digit).map (number * 10 + ·)) 0

/-- Whether a character is a digit to the base sixteen. -/
def isHexDigit (char : Char) : Bool :=
  char.isDigit || ('a' ≤ char && char ≤ 'f')

/-- Check the number of one part of a colour. -/
def checkPart (text : List Char) : Except StyleFault Nat :=
  match number? text with
  | some number => .ok number
  | none => .error (.number (String.ofList text))

/-- Check the three parts of a colour. -/
def checkParts (text : List Char) : Except StyleFault Unit :=
  match text.splitOn ',' with
  | [red, green, blue] => do
      let red ← checkPart red
      let green ← checkPart green
      let blue ← checkPart blue
      if red ≤ 255 ∧ green ≤ 255 ∧ blue ≤ 255 then return else throw .word
  | _ => .error .word

/-- Whether a word is the name of a colour. -/
def isColourName (word : List Char) : Bool :=
  word == "default".toList ||
    colourNames.any fun line => (line.toList.splitOn ' ').contains word

/-- Check that a word in lower case is a colour: a name, a number, or three parts. -/
def checkColour (word : List Char) : Except StyleFault Unit :=
  if isColourName word then .ok ()
  else if word.head? = some '#' then
    if word.length = 7 ∧ word.tail.all isHexDigit then .ok () else .error .word
  else
    match bracketed? "color" word, bracketed? "rgb" word with
    | some digits, _ =>
        if digits.length ≤ 3 ∧ digits.all Char.isDigit ∧ (number? digits).any (· ≤ 255) then .ok ()
        else .error .word
    | none, some parts =>
        if parts ≠ [] ∧ parts.all (fun char => (Text.digitValue? char).isSome || char == ',') then
          checkParts parts
        else .error .word
    | none, none => .error .word

/-- The colour that a word stands for. -/
def colourOf (word : List Char) : Except StyleFault String := do
  let lower := Text.lowered word
  checkColour lower
  return String.ofList lower

/-! ## Descriptions -/

/-- The style that words describe after other words. -/
def Style.ofWords (style : Style) : List (List Char) → Except StyleFault Style
  | [] => .ok style
  | [word] =>
      let word := Text.lowered word
      match attribute? (String.ofList word) with
      | some name => .ok { style with set := (name, true) :: style.set }
      | none =>
          if ["on", "not", "link"].contains (String.ofList word) then .error .word
          else do return { style with colour := some (← colourOf word) }
  | word :: next :: rest =>
      let word := String.ofList (Text.lowered word)
      if word = "on" then do
        ofWords { style with ground := some (← colourOf next) } rest
      else if word = "not" then
        match attribute? (String.ofList next) with
        | none => .error .word
        | some name => ofWords { style with set := (name, false) :: style.set } rest
      else if word = "link" then ofWords { style with link := some (String.ofList next) } rest
      else
        match attribute? word with
        | some name => ofWords { style with set := (name, true) :: style.set } (next :: rest)
        | none => do
            ofWords { style with colour := some (← colourOf word.toList) } (next :: rest)

namespace Style

/-- The words for an attribute in the normal form. -/
def attributeWords (style : Style) (name : String) : List String :=
  match style.set.lookup name with
  | none => []
  | some true => [name]
  | some false => ["not", name]

/-- The normal form of a style. -/
def text (style : Style) : String :=
  let words :=
    (attributes.flatMap fun entry => style.attributeWords entry.1) ++
      style.colour.toList ++ (style.ground.toList.flatMap fun ground => ["on", ground]) ++
      (style.link.toList.flatMap fun link => ["link", link])
  if words = [] then "none" else " ".intercalate words

end Style

/-- The normal form of a description.  That of one which describes no style is itself in lower case.
-/
def normalForm (description : List Char) : Except StyleFault String :=
  let trimmed := Text.trim description
  if trimmed = [] ∨ trimmed = "none".toList then .ok "none"
  else
    match Style.ofWords {} (Text.words description) with
    | .ok style => .ok style.text
    | .error .word => .ok (String.ofList (Text.lowered trimmed))
    | .error fault => .error fault

end SchemaDecl.Console
