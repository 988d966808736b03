import SchemaDecl.Data
import SchemaDecl.Text.Quoted
import SchemaDecl.Text.Utf8

/-!
# Checking data

A check turns data into a value of a type, or says everything that is wrong with them.  An issue has
the path to the faulty part.  Checks of several parts are combined so that the issues of all of them
are kept.
-/

namespace SchemaDecl

/-- A step of a path into data. -/
inductive PathPart where
  | name (text : String)
  | index (value : Int)
  deriving DecidableEq, Repr

namespace PathPart

/-- The text of a step. -/
def text : PathPart → String
  | name text => text
  | index value => toString value

end PathPart

/-- What is wrong with a part of data. -/
inductive IssueKind where
  | missing
  | extraForbidden
  | stringType
  /-- Bytes or code points are no text. -/
  | stringUnicode
  | listType
  | dictType
  | literalError
  | enum
  | modelType
  | boolType
  | boolParsing
  | invalidKey
  /-- Data are nested too deeply. -/
  | recursionDepthExceeded
  /-- Parts that are sound by themselves do not go together. -/
  | valueError (message : String)
  deriving DecidableEq, Repr

namespace IssueKind

/-- The word for a kind of issue. -/
def label : IssueKind → String
  | missing => "missing"
  | extraForbidden => "extra_forbidden"
  | stringType => "string_type"
  | stringUnicode => "string_unicode"
  | listType => "list_type"
  | dictType => "dict_type"
  | literalError => "literal_error"
  | enum => "enum"
  | modelType => "model_type"
  | boolType => "bool_type"
  | boolParsing => "bool_parsing"
  | invalidKey => "invalid_key"
  | recursionDepthExceeded => "recursion_depth_exceeded"
  | valueError _ => "value_error"

/-- The message that comes with an issue, if there is one. -/
def message? : IssueKind → Option String
  | valueError message => some ("Value error, " ++ message)
  | _ => none

end IssueKind

/-- Something wrong at a path. -/
structure Issue where
  path : List PathPart
  kind : IssueKind
  deriving DecidableEq, Repr

namespace Issue

/-- Whether a list of texts comes before another or is equal to it. -/
def textsLe : List String → List String → Bool
  | [], _ => true
  | _ :: _, [] => false
  | left :: leftRest, right :: rightRest =>
      left < right || (left == right && textsLe leftRest rightRest)

/-- The order in which issues are reported: by path, then by kind. -/
def le (left right : Issue) : Bool :=
  let leftPath := left.path.map PathPart.text
  let rightPath := right.path.map PathPart.text
  if leftPath = rightPath then left.kind.label ≤ right.kind.label else textsLe leftPath rightPath

/-- Issues in the order in which they are reported. -/
def sort (issues : List Issue) : List Issue :=
  issues.mergeSort le

end Issue

/-- The outcome of a check. -/
inductive Checked (α : Type) where
  | valid (value : α)
  | invalid (issues : List Issue)

namespace Checked

variable {α β : Type}

/-- Apply a function to a checked value. -/
def map (convert : α → β) : Checked α → Checked β
  | valid value => valid (convert value)
  | invalid issues => invalid issues

/-- Apply a checked function to a checked value.  The issues of both are kept. -/
def apply (convert : Checked (α → β)) (argument : Checked α) : Checked β :=
  match convert, argument with
  | valid convert, valid value => valid (convert value)
  | valid _, invalid issues => invalid issues
  | invalid issues, valid _ => invalid issues
  | invalid first, invalid second => invalid (first ++ second)

/-- A function can be applied to a checked value. -/
instance : Functor Checked where
  map := map

/-- A checked function and a checked value bring the issues of both. -/
instance : Seq Checked where
  seq convert argument := apply convert (argument ())

/-- One issue at the place that is checked. -/
def issue (kind : IssueKind) : Checked α :=
  invalid [⟨[], kind⟩]

/-- Report the issues of a check as those of a part. -/
def under (part : PathPart) : Checked α → Checked α
  | valid value => valid value
  | invalid issues => invalid (issues.map fun issue => { issue with path := part :: issue.path })

/-- Check a sound value further. -/
def andThen (first : Checked α) (next : α → Checked β) : Checked β :=
  match first with
  | valid value => next value
  | invalid issues => invalid issues

/-- Check the elements of a list, the first of which is at an index. -/
def elements (check : Data → Checked α) (index : Nat) : List Data → Checked (List α)
  | [] => valid []
  | first :: rest =>
      List.cons <$> (check first).under (.index index) <*> elements check (index + 1) rest

/-- The value, or the issues in the order in which they are reported. -/
def toExcept : Checked α → Except (List Issue) α
  | valid value => .ok value
  | invalid issues => .error (Issue.sort issues)

@[simp] theorem map_valid (convert : α → β) (value : α) :
    convert <$> valid value = valid (convert value) := rfl

@[simp] theorem map_invalid (convert : α → β) (issues : List Issue) :
    convert <$> (invalid issues : Checked α) = invalid issues := rfl

@[simp] theorem seq_valid (convert : α → β) (value : α) :
    (valid convert <*> valid value : Checked β) = valid (convert value) := rfl

@[simp] theorem under_valid (part : PathPart) (value : α) :
    (valid value).under part = valid value := rfl

@[simp] theorem andThen_valid (value : α) (next : α → Checked β) :
    (valid value).andThen next = next value := rfl

@[simp] theorem toExcept_valid (value : α) : (valid value).toExcept = .ok value := rfl

end Checked

namespace Data

/-- A text, perhaps given by its bytes. -/
def asText : Data → Checked CodeText
  | text value => .valid value
  | bytes content =>
      match Utf8.decode content with
      | .ok value => .valid value
      | .error _ => .issue .stringUnicode
  | _ => .issue .stringType

/-- A text without surrogates. -/
def asString (data : Data) : Checked String :=
  data.asText.andThen fun value =>
    match value.toString? with
    | some value => .valid value
    | none => .issue .stringUnicode

/-- What a check gives, or none for the absent value. -/
def asOptional {α : Type} (check : Data → Checked α) : Data → Checked (Option α)
  | null => .valid none
  | data => some <$> check data

/-- The words for the truth values, in lower case. -/
def truthWords : List (String × Bool) :=
  [("0", false), ("off", false), ("f", false), ("false", false), ("n", false), ("no", false),
   ("1", true), ("on", true), ("t", true), ("true", true), ("y", true), ("yes", true)]

/-- The bound below which integers have 64 bits, the sign included. -/
def wordBound : Int := 9223372036854775808

/-- The truth value of an integer. -/
def truthOfInt (value : Int) : Checked Bool :=
  if value = 0 then .valid false
  else if value = 1 then .valid true
  else .issue .boolParsing

/-- A truth value, given as such, as zero or one, or as a word in letters of any case.  A number is
not looked at unless it is an integer of 64 bits. -/
def asBoolean : Data → Checked Bool
  | boolean value => .valid value
  | integer value =>
      if -wordBound ≤ value ∧ value < wordBound then truthOfInt value else .issue .boolType
  | real value =>
      match value.toInt? with
      | some whole =>
          if -wordBound < whole ∧ whole < wordBound then truthOfInt whole else .issue .boolType
      | none => .issue .boolType
  | text value =>
      match truthWords.lookup (String.ofList (value.replaced.map Char.toLower)) with
      | some truth => .valid truth
      | none => .issue .boolParsing
  | _ => .issue .boolType

/-- A list or a set whose elements are checked one by one. -/
def asList {α : Type} (check : Data → Checked α) : Data → Checked (List α)
  | list values => Checked.elements check 0 values
  | set values => Checked.elements check 0 values
  | _ => .issue .listType

/-- The number of digits up to which integers are written in paths. -/
def digitLimit : Nat := 4300

/-- The step of a path that an integer key stands for.  An integer that has more than 64 bits is a
name, and one with very many digits is not written at all. -/
def integerPart (value : Int) : PathPart :=
  if -wordBound ≤ value ∧ value < wordBound then .index value
  else if digitLimit < Real.decimalSize value.natAbs then .name "<unprintable int object>"
  else .name (toString value)

/-- A code point in a path.  A surrogate is replaced as if it had bytes, which are three. -/
def pathChars : CodePoint → List Char
  | .character char => [char]
  | .surrogate _ => List.replicate 3 CodePoint.replacement

/-- The step of a path that a key stands for. -/
def keyPart : Data → PathPart
  | text value => .name (String.ofList (value.points.flatMap pathChars))
  | bytes content => .name (Text.quotedBytes content)
  | moment value => .name value.text
  | integer value => integerPart value
  | boolean value => .index (if value then 1 else 0)
  | null => .name "None"
  | real value => .name value.text
  | list _ => .name "[]"
  | set _ => .name "set()"
  | pair .. => .name "()"
  | mapping _ => .name "\x7b\x7d"

/-- Check the keys and values of a mapping from texts to texts. -/
def textEntries : List (Data × Data) → Checked (List (CodeText × CodeText))
  | [] => .valid []
  | (key, value) :: rest =>
      let checkedKey := ((key.asText).under (.name "[key]")).under key.keyPart
      let checkedValue := (value.asText).under key.keyPart
      List.cons <$> (Prod.mk <$> checkedKey <*> checkedValue) <*> textEntries rest

/-- Put an entry into a mapping of texts; the value of a key that is there is replaced. -/
def putText (key value : CodeText) : List (CodeText × CodeText) → List (CodeText × CodeText)
  | [] => [(key, value)]
  | (held, old) :: rest =>
      if held = key then (held, value) :: rest else (held, old) :: putText key value rest

/-- The entries without those that later ones replace. -/
def lastOfEach (entries : List (CodeText × CodeText)) : List (CodeText × CodeText) :=
  entries.foldl (fun entries entry => putText entry.1 entry.2 entries) []

/-- A mapping from texts to texts.  Of keys that are the same text, the last one counts. -/
def asTextMap : Data → Checked (List (CodeText × CodeText))
  | mapping entries => lastOfEach <$> textEntries entries
  | _ => .issue .dictType

/-- The part of a mapping under a name, which must be there. -/
def required {α : Type} (entries : List (Data × Data)) (name : String) (check : Data → Checked α) :
    Checked α :=
  Checked.under (.name name) <|
    match field? name entries with
    | none => .issue .missing
    | some value => check value

/-- The part of a mapping under a name, or a default in its absence. -/
def optional {α : Type} (entries : List (Data × Data)) (name : String) (default : α)
    (check : Data → Checked α) : Checked α :=
  match field? name entries with
  | none => .valid default
  | some value => (check value).under (.name name)

end Data

end SchemaDecl
