import SchemaDecl.Markup.Form

/-!
# Tags

A tag says what kind of value a node stands for.  A node that carries no tag gets one by its form.
-/

namespace SchemaDecl.Markup

/-- The kinds of values that nodes stand for. -/
inductive Tag where
  | null
  | truth
  | integer
  | real
  | binary
  | moment
  | text
  | sequence
  | mapping
  /-- Entries in order, in a sequence of mappings with one entry each. -/
  | entries
  /-- The keys of a mapping. -/
  | set
  /-- The key that takes over the entries of other mappings. -/
  | merge
  /-- The key of the value that a mapping has where a scalar is wanted. -/
  | value
  | unknown
  deriving DecidableEq, Repr, Inhabited

namespace Tag

/-- Whether a tag is one of collections. -/
def isCollection : Tag → Bool
  | sequence | mapping | entries | set => true
  | _ => false

/-- What the names of all known tags start with. -/
def start : List Char :=
  "tag:yaml.org,2002:".toList

/-- The known tags by the ends of their names. -/
def known : List (String × Tag) :=
  [("null", null), ("bool", truth), ("int", integer), ("float", real), ("binary", binary),
   ("timestamp", moment), ("str", text), ("seq", sequence), ("map", mapping), ("omap", entries),
   ("pairs", entries), ("set", set), ("merge", merge), ("value", value)]

/-- The tag with a name. -/
def ofName (name : List Char) : Tag :=
  if start.isPrefixOf name then
    (known.lookup (String.ofList (name.drop start.length))).getD unknown
  else unknown

/-- Signs that have the form of no value. -/
def signs : List (List Char) :=
  ["!", "&", "*"].map String.toList

/-- The tag that the form of a plain scalar asks for. -/
def ofForm (form : List Char) : Tag :=
  if nullWords.contains form then null
  else if truthWords.contains form then truth
  else if isReal form then real
  else if isInteger form then integer
  else if isMoment form then moment
  else if form = ['<', '<'] then merge
  else if form = ['='] then value
  else if signs.contains form then unknown
  else text

/-- The tag of a scalar without one that is read as if it were plain.  A line feed at its end does
not belong to its form. -/
def ofPlain (plain : List Char) : Tag :=
  if plain = ['\n'] then text else ofForm (withoutFinalBreak plain)

end Tag

end SchemaDecl.Markup
