import SchemaDecl.Text.Case

/-!
# Names of members

A property of a declaration is named like the field it comes from, with a capital first letter.  An
enumerant named in capitals is one word per part between underscores, each capitalised; any other
enumerant is named like a property.
-/

namespace SchemaDecl

/-- How enumerants are named. -/
inductive MemberStyle
  /-- Names in capitals become capitalised words without underscores. -/
  | pascal
  /-- Only the first letter of a name changes. -/
  | capitalize
  deriving DecidableEq, Repr

namespace Member

open Text

/-- The letters of a property name. -/
def propertyLetters : List Char → List Char
  | [] => []
  | char :: rest => upper char ++ rest

/-- The letters of an enumerant. -/
def enumerantLetters (style : MemberStyle) (name : List Char) : List Char :=
  if style = .capitalize || !isUpperText name then propertyLetters name
  else (name.splitOn '_').flatMap capitalized

/-- The property a field becomes. -/
def property (field : String) : String :=
  String.ofList (propertyLetters field.toList)

/-- The enumerant an enum value becomes. -/
def enumerant (style : MemberStyle) (value : String) : String :=
  String.ofList (enumerantLetters style value.toList)

@[simp] theorem propertyLetters_cons (char : Char) (rest : List Char) :
    propertyLetters (char :: rest) = upper char ++ rest := rfl

@[simp] theorem toList_property (field : String) :
    (property field).toList = propertyLetters field.toList := by
  simp [property]

@[simp] theorem toList_enumerant (style : MemberStyle) (value : String) :
    (enumerant style value).toList = enumerantLetters style value.toList := by
  simp [enumerant]

/-- The style that keeps underscores treats an enum value like a field. -/
theorem enumerantLetters_capitalize (name : List Char) :
    enumerantLetters .capitalize name = propertyLetters name := by
  simp [enumerantLetters]

end Member

end SchemaDecl
