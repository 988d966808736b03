import SchemaDecl.Markup.Character
import SchemaDecl.Markup.Fault
import SchemaDecl.Text.Line

/-!
# Sources of markup

The bytes of a file are decoded piece by piece.  The characters are handed on in portions, and each
is looked at for characters that must not occur.  A fault in the file counts only when its portion
is asked for.  So what a file holds is a text, and perhaps a fault that comes after it.
-/

namespace SchemaDecl.Markup

/-- A text that can be read up to some place. -/
structure Source where
  text : List Char
  /-- What is met at the end of the text, unless the file ends there. -/
  fault : Option MarkupFault := none

/-! ## Pieces of bytes -/

/-- A file that is being read. -/
structure Stream where
  /-- The bytes that have not been read. -/
  rest : List UInt8
  /-- The bytes of a sequence that has begun and not ended. -/
  begun : List UInt8 := []
  /-- Whether the last character is a carriage return, which may belong to a line feed after it. -/
  returned : Bool := false
  /-- The characters that have not been handed on. -/
  ready : List Char := []
  /-- The number of bytes of the last piece. -/
  bytes : Nat := 0
  /-- The number of characters of the last piece. -/
  chars : Nat := 0

namespace Stream

/-- The least number of bytes of a piece. -/
def leastPiece : Nat := 8192

/-- The number of bytes to read when a number of characters is wanted, which are supposed to be as
long as those of the last piece. -/
def pieceSize (stream : Stream) (wanted : Nat) : Nat :=
  max leastPiece (if stream.chars = 0 then 0 else stream.bytes * wanted / stream.chars)

/-- Whether the bytes from a fault on may turn out to be the beginning of a sequence, or that of a
surrogate. -/
def isOpen (bytes : List UInt8) (fault : Utf8.Fault) : Bool :=
  fault.cause == .truncated ||
    match bytes.drop fault.position with
    | [first, second] => first == 0xED && 0xA0 ≤ second && second ≤ 0xBF
    | _ => false

/-- The characters of some bytes, and the bytes of a sequence that has not ended.  After the last
bytes of a file no sequence may be open. -/
def decodePiece (last : Bool) (bytes : List UInt8) : Except Utf8.Fault (List Char × List UInt8) :=
  match Utf8.decode bytes with
  | .ok text => .ok (text.toList, [])
  | .error fault =>
      if !last && isOpen bytes fault then
        (fun text => (text.toList, bytes.drop fault.position)) <$>
          Utf8.decode (bytes.take fault.position)
      else .error fault

/-- Read some bytes.  If there are none, the file has ended. -/
def take (stream : Stream) (piece : List UInt8) : Except Utf8.Fault Stream := do
  let last := piece.isEmpty
  let (chars, begun) ← decodePiece last (stream.begun ++ piece)
  let chars := if stream.returned ∧ (last ∨ chars ≠ []) then '\r' :: chars else chars
  let returned := !last && (chars.getLast? == some '\r' || (stream.returned && chars.isEmpty))
  let chars := Text.unifyLineEnds (if returned then chars.dropLast else chars)
  return { rest := stream.rest.drop piece.length
           begun
           returned
           ready := stream.ready ++ chars
           bytes := piece.length
           chars := chars.length }

/-- Read pieces until a number of characters is ready, or the file has ended. -/
def fill (wanted : Nat) : Nat → Stream → Except Utf8.Fault Stream
  | 0, stream => .ok stream
  | bound + 1, stream =>
      let count := stream.ready.length
      if wanted ≤ count then .ok stream
      else
        let piece := stream.rest.take (stream.pieceSize (wanted - count))
        match stream.take piece with
        | .error fault => .error fault
        | .ok stream => if piece = [] then .ok stream else fill wanted bound stream

/-! ## Portions of characters -/

/-- The number of characters of a portion. -/
def portionSize : Nat := 4096

/-- The next portions of a number. -/
def portions : Nat → Stream → Except Utf8.Fault (List Char × Stream)
  | 0, stream => .ok ([], stream)
  | count + 1, stream => do
      let stream ← stream.fill portionSize (stream.rest.length + 1)
      let portion := stream.ready.take portionSize
      let (later, stream) ←
        portions count { stream with ready := stream.ready.drop portionSize }
      return (portion ++ later, stream)

/-- What can be read of a file, given how many portions are asked for at once. -/
def source (stream : Stream) (count : Nat) : Nat → Source
  | 0 => ⟨[], none⟩
  | bound + 1 =>
      match portions count stream with
      | .error fault => ⟨[], some (.encoding fault)⟩
      | .ok (text, stream) =>
          if text = [] then ⟨[], none⟩
          else if text.all isPrintable then
            let later := source stream 1 bound
            { later with text := text ++ later.text }
          else ⟨[], some .form⟩

end Stream

/-- What can be read of a file with some bytes.  At its beginning, two portions are asked for at
once. -/
def Source.ofBytes (bytes : List UInt8) : Source :=
  Stream.source { rest := bytes } 2 (bytes.length + 1)

end SchemaDecl.Markup
