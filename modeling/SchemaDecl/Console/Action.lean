import SchemaDecl.Console.Sign
import SchemaDecl.Text.Line

/-!
# Actions behind texts

A tag can put an action behind a text.  The action is a name, a name with arguments in parentheses,
or a plain value.  Arguments are plain values, too: numbers, quoted texts, constants, and values
between brackets.  What is in a set, and the keys of a mapping, can be no list, set or mapping.
-/

namespace SchemaDecl.Console

/-- What kind of value signs stand for, as far as it decides where they can stand. -/
inductive ValueKind where
  /-- A number that is not imaginary, without a sign. -/
  | number
  /-- A number that is not imaginary, with a sign. -/
  | signed
  | imaginary
  /-- Anything else that can be in a set. -/
  | fixed
  /-- A list, a set or a mapping, or something that holds one. -/
  | changeable
  /-- The name of the sets, which is no value by itself. -/
  | name
  deriving DecidableEq, Repr

namespace ValueKind

/-- The kind of a number after a plus or a minus. -/
def withSign? : ValueKind → Option ValueKind
  | number => some signed
  | imaginary => some fixed
  | _ => none

/-- The kind of the sum or the difference of two numbers, the second of which is imaginary. -/
def sum? (left right : ValueKind) : Option ValueKind :=
  if (left = number ∨ left = signed) ∧ right = imaginary then some fixed else none

/-- The kind of a fixed sequence of values. -/
def ofParts (parts : List ValueKind) : ValueKind :=
  if parts.contains changeable then changeable else fixed

/-! ## Reading values -/

/-- Signs without those of quoted texts of one kind at their head. -/
def dropQuoted (quoted : ValueSign) (signs : List ValueSign) : Option (List ValueSign) :=
  let rest := signs.dropWhile (· == quoted)
  if rest.head? = some .text ∨ rest.head? = some .bytes then none else some rest

/-- The name of the sets, with the parentheses after it if there are any. -/
def called (kind : ValueKind) : List ValueSign → ValueKind × List ValueSign
  | .opening '(' :: .closing ')' :: rest =>
      if kind = name then (changeable, rest) else (kind, .opening '(' :: .closing ')' :: rest)
  | signs => (kind, signs)

/-- Whether all values of some kinds can be in a set. -/
def areFixed (kinds : List ValueKind) : Bool :=
  !(kinds.contains changeable || kinds.contains name)

/-- What is being read of a value. -/
inductive Part where
  /-- A value that is no sum and has no sign. -/
  | atom
  /-- A value with or without a sign. -/
  | signed
  /-- A value. -/
  | value
  /-- Values up to a bracket, with commas between them. -/
  | values (closer : Char)
  /-- What follows a value in such a part. -/
  | moreValues (closer : Char)
  /-- Keys with their values up to a brace. -/
  | entries
  /-- What follows a key in such a part. -/
  | moreEntries
  deriving DecidableEq, Repr

/-- The kinds of the values in a part, whether there is a comma after the first of them, and the
signs after the part. -/
structure Found where
  kinds : List ValueKind
  separated : Bool := false
  rest : List ValueSign

/-- A part that is a single value. -/
def single (kind : ValueKind) (rest : List ValueSign) : Found :=
  { kinds := [kind], rest }

/-- What stands between parentheses: a value, or a sequence of values. -/
def inParentheses? (found : Found) : Option Found :=
  match found.kinds, found.separated with
  | [kind], false =>
      let (kind, rest) := called kind found.rest
      some (single kind rest)
  | kinds, _ => if kinds.contains name then none else some (single (ofParts kinds) found.rest)

/-- Read a part of a value. -/
def read? : Nat → Part → List ValueSign → Option Found
  | 0, _, _ => none
  | _ + 1, .atom, .number :: rest => some (single number rest)
  | _ + 1, .atom, .imaginary :: rest => some (single imaginary rest)
  | _ + 1, .atom, .constant :: rest => some (single fixed rest)
  | _ + 1, .atom, .setName :: rest =>
      let (kind, rest) := called name rest
      some (single kind rest)
  | _ + 1, .atom, .text :: rest => (dropQuoted .text rest).map (single fixed)
  | _ + 1, .atom, .bytes :: rest => (dropQuoted .bytes rest).map (single fixed)
  | bound + 1, .atom, .opening '(' :: rest => read? bound (.values ')') rest >>= inParentheses?
  | bound + 1, .atom, .opening '[' :: rest => do
      let found ← read? bound (.values ']') rest
      guard (!found.kinds.contains name)
      return single changeable found.rest
  | _ + 1, .atom, .opening '\x7b' :: .closing '\x7d' :: rest => some (single changeable rest)
  | bound + 1, .atom, .opening '\x7b' :: rest => do
      let first ← read? bound .value rest
      let part := if first.rest.head? = some .colon then .moreEntries else .moreValues '\x7d'
      let found ← read? bound part first.rest
      guard (areFixed (first.kinds ++ found.kinds))
      return single changeable found.rest
  | _ + 1, .atom, _ => none
  | bound + 1, .signed, .plus :: rest | bound + 1, .signed, .minus :: rest => do
      let operand ← read? bound .atom rest
      let kind ← operand.kinds.head?.bind withSign?
      return single kind operand.rest
  | bound + 1, .signed, signs => read? bound .atom signs
  | bound + 1, .value, signs => do
      let left ← read? bound .signed signs
      match left.rest with
      | .plus :: rest | .minus :: rest =>
          let right ← read? bound .atom rest
          let kind ← sum? (← left.kinds.head?) (← right.kinds.head?)
          return single kind right.rest
      | _ => return left
  | bound + 1, .values closer, signs =>
      if signs.head? = some (.closing closer) then some { kinds := [], rest := signs.tail }
      else do
        let first ← read? bound .value signs
        let others ← read? bound (.moreValues closer) first.rest
        return { others with kinds := first.kinds ++ others.kinds }
  | bound + 1, .moreValues closer, signs =>
      if signs.head? = some (.closing closer) then some { kinds := [], rest := signs.tail }
      else do
        guard (signs.head? = some .comma)
        let others ← read? bound (.values closer) signs.tail
        return { others with separated := true }
  | bound + 1, .entries, signs =>
      if signs.head? = some (.closing '\x7d') then some { kinds := [], rest := signs.tail }
      else do
        let key ← read? bound .value signs
        let found ← read? bound .moreEntries key.rest
        return { found with kinds := key.kinds ++ found.kinds }
  | bound + 1, .moreEntries, signs => do
      guard (signs.head? = some .colon)
      let value ← read? bound .value signs.tail
      guard (!value.kinds.contains name)
      if value.rest.head? = some (.closing '\x7d') then
        return { kinds := [], rest := value.rest.tail }
      else
        guard (value.rest.head? = some .comma)
        read? bound .entries value.rest.tail

end ValueKind

/-- Whether a text is a plain value, or several with commas between them. -/
def isPlainValue (text : List Char) : Bool :=
  let text := Text.unifyLineEnds text
  match ValueSign.read? 0 0 text with
  | none => false
  | some signs =>
      let signs := signs.dropWhile (· == .lineEnd)
      let signs := (signs.reverse.dropWhile (· == .lineEnd)).reverse
      let bound := 8 * signs.length + 8
      match ValueKind.read? bound (.values ')') (signs ++ [.closing ')']) with
      | some found =>
          ValueSign.isFlush false false text && signs ≠ [] && found.rest = [] &&
            !found.kinds.contains .name
      | none => false

/-- Whether a character can be in the name of an action. -/
def isActionChar (char : Char) : Bool :=
  Text.isWordChar char || char == '.'

/-- Whether a text, without blanks around it, describes an action. -/
def describesAction (text : List Char) : Bool :=
  let arguments := text.dropWhile isActionChar
  if arguments = [] then true
  else if arguments.head? = some '(' ∧ arguments.getLast? = some ')' ∧ '\n' ∉ arguments then
    isPlainValue arguments
  else isPlainValue text

end SchemaDecl.Console
