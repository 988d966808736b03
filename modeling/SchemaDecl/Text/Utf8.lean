import SchemaDecl.Text.CodePoint

/-!
# UTF-8

A text is stored as bytes.  Reading goes over the bytes once: a first byte tells how many
continuation bytes follow and in which range the next of them must be.  A fault tells where the
faulty sequence starts and how many of its bytes were read before it was known to be faulty.
Surrogates have no bytes.
-/

namespace SchemaDecl.Utf8

/-- Why bytes do not stand for a character. -/
inductive Cause where
  /-- No sequence starts with the byte. -/
  | start
  /-- The next byte does not continue the sequence. -/
  | continuation
  /-- The bytes end within the sequence. -/
  | truncated
  deriving DecidableEq, Repr

namespace Cause

/-- The words for a cause. -/
def message : Cause → String
  | start => "invalid start byte"
  | continuation => "invalid continuation byte"
  | truncated => "unexpected end of data"

end Cause

/-- A place where bytes are not a text. -/
structure Fault where
  /-- How many bytes stand before the faulty sequence. -/
  position : Nat
  /-- The first byte of the faulty sequence. -/
  first : UInt8
  /-- The number of its bytes that are at fault. -/
  length : Nat
  cause : Cause
  deriving DecidableEq, Repr

/-- The two digits of a byte to the base sixteen. -/
def byteDigits (byte : UInt8) : String :=
  String.ofList [Nat.digitChar (byte.toNat / 16), Nat.digitChar (byte.toNat % 16)]

namespace Fault

/-- The message of a fault. -/
def message (fault : Fault) : String :=
  let place :=
    if fault.length ≤ 1 then
      "byte 0x" ++ byteDigits fault.first ++ " in position " ++ toString fault.position
    else
      "bytes in position " ++ toString fault.position ++ "-" ++
        toString (fault.position + fault.length - 1)
  "'utf-8' codec can't decode " ++ place ++ ": " ++ fault.cause.message

end Fault

/-- A sequence that has begun and wants more bytes. -/
structure Pending where
  first : UInt8
  /-- The number of bytes read. -/
  length : Nat
  /-- The value of the bits read. -/
  value : Nat
  /-- The number of bytes wanted after the next one. -/
  later : Nat
  /-- The least next byte. -/
  low : UInt8
  /-- The greatest next byte. -/
  high : UInt8
  deriving DecidableEq, Repr

namespace Pending

/-- The fault of a sequence after which a given number of bytes have been read. -/
def fault (pending : Pending) (position : Nat) (cause : Cause) : Fault :=
  ⟨position - pending.length, pending.first, pending.length, cause⟩

/-- The value with the bits of a continuation byte. -/
def extend (pending : Pending) (byte : UInt8) : Nat :=
  pending.value * 64 + byte.toNat % 64

end Pending

/-- The sequence of several bytes that a byte begins, if it begins one.  The ranges of the second
byte leave out longer spellings than needed, surrogates, and values above the last character. -/
def begin? (byte : UInt8) : Option Pending :=
  if byte < 0xC2 then none
  else if byte < 0xE0 then some ⟨byte, 1, byte.toNat % 32, 0, 0x80, 0xBF⟩
  else if byte < 0xF0 then
    some ⟨byte, 1, byte.toNat % 16, 1, if byte = 0xE0 then 0xA0 else 0x80,
      if byte = 0xED then 0x9F else 0xBF⟩
  else if byte < 0xF5 then
    some ⟨byte, 1, byte.toNat % 8, 2, if byte = 0xF0 then 0x90 else 0x80,
      if byte = 0xF4 then 0x8F else 0xBF⟩
  else none

/-- Read bytes, the first of which is at a position, perhaps within a sequence. -/
def read (position : Nat) : Option Pending → List UInt8 → Except Fault (List Char)
  | none, [] => .ok []
  | some pending, [] => .error (pending.fault position .truncated)
  | none, byte :: rest =>
      if byte < 0x80 then (Char.ofNat byte.toNat :: ·) <$> read (position + 1) none rest
      else
        match begin? byte with
        | none => .error ⟨position, byte, 1, .start⟩
        | some pending => read (position + 1) (some pending) rest
  | some pending, byte :: rest =>
      if pending.low ≤ byte ∧ byte ≤ pending.high then
        match pending.later with
        | 0 => (Char.ofNat (pending.extend byte) :: ·) <$> read (position + 1) none rest
        | later + 1 =>
            read (position + 1)
              (some ⟨pending.first, pending.length + 1, pending.extend byte, later, 0x80, 0xBF⟩)
              rest
      else .error (pending.fault position .continuation)

/-- The text that bytes stand for. -/
def decode (bytes : List UInt8) : Except Fault String :=
  String.ofList <$> read 0 none bytes

/-- The bytes of a text. -/
def encode (text : String) : List UInt8 :=
  text.toUTF8.toList

/-! ## Texts with surrogates -/

/-- A place where a text has no bytes. -/
structure SurrogateFault where
  /-- How many code points stand before the first surrogate. -/
  position : Nat
  /-- The surrogates in a row. -/
  points : List CodePoint
  deriving DecidableEq, Repr

/-- The message of a fault. -/
def SurrogateFault.message (fault : SurrogateFault) : String :=
  let place :=
    match fault.points with
    | [point] =>
        "character '\\u" ++ String.ofList (Nat.toDigits 16 point.code) ++ "' in position " ++
          toString fault.position
    | points =>
        "characters in position " ++ toString fault.position ++ "-" ++
          toString (fault.position + points.length - 1)
  "'utf-8' codec can't encode " ++ place ++ ": surrogates not allowed"

/-- The bytes of a text of code points.  The first surrogates in it are the fault. -/
def encodeText (text : CodeText) : Except SurrogateFault (List UInt8) :=
  match text.toString? with
  | some text => .ok (encode text)
  | none =>
      let before := text.points.takeWhile fun point => point.char?.isSome
      let others := text.points.drop before.length
      .error ⟨before.length, others.takeWhile fun point => point.char?.isNone⟩

end SchemaDecl.Utf8
