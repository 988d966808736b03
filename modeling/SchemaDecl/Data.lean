import SchemaDecl.Calendar
import SchemaDecl.Real
import SchemaDecl.Stray
import SchemaDecl.Text.CodePoint

/-!
# Data

Data are the values that settings and models are read from and written to: plain values, lists,
sets, pairs, and mappings whose entries keep their order.  The keys of a mapping are usually texts
but can be any plain value.
-/

namespace SchemaDecl

/-- A value that settings and models are read from and written to. -/
inductive Data where
  | null
  | boolean (value : Bool)
  | integer (value : Int)
  | real (value : Real)
  | text (value : CodeText)
  | bytes (content : List UInt8)
  | moment (value : Moment)
  | list (elements : List Data)
  /-- Values without repetition. -/
  | set (elements : List Data)
  | pair (first second : Data)
  | mapping (entries : List (Data × Data))
  deriving Repr, Inhabited

namespace Data

/-- The kind of a value. -/
def kind : Data → ValueKind
  | null => .null
  | boolean _ => .boolean
  | integer _ => .integer
  | real _ => .float
  | text _ => .text
  | bytes _ => .bytes
  | moment (.date _) => .date
  | moment (.time ..) => .timestamp
  | list _ => .sequence
  | set _ => .set
  | pair .. => .pair
  | mapping _ => .mapping

/-- Whether a value is the given text. -/
def isText (name : String) : Data → Bool
  | text value => value == .ofString name
  | _ => false

/-- The value under a text key. -/
def field? (name : String) : List (Data × Data) → Option Data
  | [] => none
  | (key, value) :: rest => if key.isText name then some value else field? name rest

/-- A mapping with text keys. -/
def ofFields (fields : List (String × Data)) : Data :=
  .mapping (fields.map fun field => (.text field.1, field.2))

theorem sizeOf_field? {name : String} {entries : List (Data × Data)} {value : Data}
    (found : field? name entries = some value) : sizeOf value < sizeOf entries := by
  induction entries with
  | nil => simp [field?] at found
  | cons first rest ih =>
      obtain ⟨key, held⟩ := first
      by_cases here : key.isText name
      · simp [field?, here] at found
        subst found
        simp
        omega
      · simp [field?, here] at found
        have smaller := ih found
        simp
        omega

@[simp] theorem isText_text (name value : String) :
    (text value).isText name = (value == name) := by
  rw [Bool.eq_iff_iff]
  simp [isText]

@[simp] theorem field?_cons_text (name key : String) (value : Data) (rest : List (Data × Data)) :
    field? name ((.text key, value) :: rest) =
      if key = name then some value else field? name rest := by
  simp [field?]

end Data

end SchemaDecl
