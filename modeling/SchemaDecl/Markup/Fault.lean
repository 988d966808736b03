import SchemaDecl.Calendar
import SchemaDecl.Text.Quoted
import SchemaDecl.Text.Utf8

/-!
# Faults in markup

A text can fail to be markup, or a scalar in it can fail to be a value of the kind that its tag or
its form asks for.
-/

namespace SchemaDecl

/-- Why a scalar has no value. -/
inductive LiteralFault where
  /-- A number without any characters. -/
  | empty
  /-- A text that is no word for a truth value. -/
  | truth
  /-- A text that has not the form of a moment. -/
  | moment
  /-- Entries where a moment is wanted. -/
  | momentEntries
  /-- A text without the form of an integer to a base. -/
  | integer (base : Nat) (text : CodeText)
  /-- An integer of more digits than are read. -/
  | manyDigits (count : Nat)
  /-- A text without the form of a number. -/
  | real (text : CodeText)
  /-- A number beyond all bounds. -/
  | tooLarge
  | calendar (fault : CalendarFault)
  /-- A code that is beyond those of characters. -/
  | character
  deriving DecidableEq, Repr

namespace LiteralFault

/-- The number of digits up to which integers are read. -/
def digitLimit : Nat := 4300

/-- The number of characters of a text that the message for an integer shows. -/
def shownLimit : Nat := 200

/-- The message of a fault, which is empty for some. -/
def message : LiteralFault → String
  | integer base text =>
      "invalid literal for int() with base " ++ toString base ++ ": " ++
        String.ofList ((Text.quoted text).toList.take shownLimit)
  | manyDigits count =>
      "Exceeds the limit (" ++ toString digitLimit ++ " digits) for integer string conversion: " ++
        "value has " ++ toString count ++
        " digits; use sys.set_int_max_str_digits() to increase the limit"
  | real text => "could not convert string to float: " ++ Text.quoted text
  | calendar fault => fault.message
  | character => "chr() arg not in range(0x110000)"
  | momentEntries => "expected string or bytes-like object, got 'list'"
  | empty | truth | moment | tooLarge => ""

end LiteralFault

/-- Why a text stands for no data. -/
inductive MarkupFault where
  /-- The text is no markup, or has parts that do not go together. -/
  | form
  /-- The bytes of the text, as far as they have to be read, are no text. -/
  | encoding (fault : Utf8.Fault)
  /-- The text of a node is that of the node itself. -/
  | endless
  | literal (fault : LiteralFault)
  deriving DecidableEq, Repr

/-- The message of a fault, which is empty for some. -/
def MarkupFault.message : MarkupFault → String
  | form | endless => ""
  | encoding fault => fault.message
  | literal fault => fault.message

end SchemaDecl
