import Mathlib.Data.List.TakeWhile
import SchemaDecl.Proofs.Sdl.Reading
import SchemaDecl.Sdl.Lexer

/-!
# Line feeds end tokens

No token but a block string has a line feed in it, and a block string has its end in it.  So what is
read from a text without a fault is read in the same way if a line feed and another text follow, and
the tokens of the other text follow.  A comment at the end of the text ends at the line feed, too.
-/

namespace SchemaDecl.Sdl

/-! ## Numbers -/

/-- The length of the sign at the head of a text. -/
def signLength (text : List Char) : Nat :=
  if text.head? = some '-' then 1 else 0

/-- A number is read part by part, and nothing may run into it. -/
theorem readNumber_eq_ok_iff (text : List Char) (lexeme : Lexeme) (length : Nat) :
    readNumber text = .ok (lexeme, length) ↔
      ∃ integer fraction exponent,
        integerLength (signLength text) (text.drop (signLength text)) = .ok integer ∧
        fractionLength (signLength text + integer)
          (text.drop (signLength text + integer)) = .ok fraction ∧
        exponentLength (signLength text + integer + fraction)
          (text.drop (signLength text + integer + fraction)) = .ok exponent ∧
        length = signLength text + integer + fraction + exponent ∧
        checkNumberEnd length (text.drop length) = .ok () ∧
        lexeme = if fraction + exponent = 0 then .int (String.ofList (text.take length))
          else .float (String.ofList (text.take length)) := by
  unfold readNumber
  simp only [exceptBind_eq_ok_iff]
  constructor
  · rintro ⟨integer, isInteger, fraction, isFraction, exponent, isExponent, _, ended, ⟨⟩⟩
    exact ⟨integer, fraction, exponent, isInteger, isFraction, isExponent, rfl, ended, rfl⟩
  · rintro ⟨integer, fraction, exponent, isInteger, isFraction, isExponent, rfl, ended, rfl⟩
    exact ⟨integer, isInteger, fraction, isFraction, exponent, isExponent, (), ended, rfl⟩

namespace Tokens

/-- The lexemes of the tokens, without their offsets. -/
def lexemes (tokens : Tokens) : List Lexeme :=
  tokens.items.map Token.lexeme

/-- The tokens are the same apart from their offsets, with no fault or the same behind them. -/
def Alike (left right : Tokens) : Prop :=
  left.lexemes = right.lexemes ∧ left.ending.fault = right.ending.fault

theorem Alike.cons {left right : Tokens} (alike : left.Alike right) (lexeme : Lexeme)
    (offset other : Nat) :
    (left.cons ⟨lexeme, offset⟩).Alike (right.cons ⟨lexeme, other⟩) :=
  ⟨congrArg (lexeme :: ·) alike.1, alike.2⟩

/-- The tokens are those of a front and a rest, with what stands behind the rest. -/
def Joins (front rest whole : Tokens) : Prop :=
  whole.lexemes = front.lexemes ++ rest.lexemes ∧ whole.ending.fault = rest.ending.fault

end Tokens

end SchemaDecl.Sdl
