/-!
# Bytes written in base 64

Four characters stand for three bytes.  Characters beyond the alphabet do not count.  Equals signs
fill up the last four characters, and what comes after them is not read.
-/

namespace SchemaDecl.Text.Base64

/-- The value of a character of the alphabet. -/
def value? (char : Char) : Option Nat :=
  if 'A' ≤ char ∧ char ≤ 'Z' then some (char.toNat - 'A'.toNat)
  else if 'a' ≤ char ∧ char ≤ 'z' then some (char.toNat - 'a'.toNat + 26)
  else if '0' ≤ char ∧ char ≤ '9' then some (char.toNat - '0'.toNat + 52)
  else if char = '+' then some 62
  else if char = '/' then some 63
  else none

/-- The bytes that end with a character, given how many characters of four stand before it and the
value of the one just before it. -/
def bytesAt (place held value : Nat) : List UInt8 :=
  match place with
  | 0 => []
  | 1 => [UInt8.ofNat (held * 4 + value / 16)]
  | 2 => [UInt8.ofNat (held * 16 + value / 4)]
  | _ => [UInt8.ofNat (held * 64 + value)]

/-- Read characters, given how many of four have been read, the value of the last of them, and how
many signs have come after it to fill up the four. -/
def decodeFrom (place held signs : Nat) : List Char → Option (List UInt8)
  | [] => if place = 0 then some [] else none
  | char :: rest =>
      if char = '=' then
        if place < 2 then decodeFrom place held signs rest
        else if 4 ≤ place + signs + 1 then some []
        else decodeFrom place held (signs + 1) rest
      else
        match value? char with
        | none => decodeFrom place held signs rest
        | some value =>
            (bytesAt place held value ++ ·) <$> decodeFrom ((place + 1) % 4) value 0 rest

/-- The bytes that a text stands for, unless the last four characters are incomplete. -/
def decode (text : List Char) : Option (List UInt8) :=
  decodeFrom 0 0 0 text

example : decode "aGk=".toList = some [104, 105] := by decide

end SchemaDecl.Text.Base64
