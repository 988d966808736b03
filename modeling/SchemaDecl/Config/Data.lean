import SchemaDecl.Config
import SchemaDecl.Item.Data

/-!
# Settings as data

Settings are read from a mapping.  A setting that is left out has its default, and a setting that is
unknown is an issue.  A key with a surrogate is an issue that hides all others.
-/

namespace SchemaDecl

namespace MemberStyle

/-- The word for a style. -/
def label : MemberStyle → String
  | pascal => "pascal"
  | capitalize => "capitalize"

/-- Check data that should be a style. -/
def ofData : Data → Checked MemberStyle
  | .text word =>
      match word.toString? with
      | none => .issue .stringUnicode
      | some "pascal" => .valid pascal
      | some "capitalize" => .valid capitalize
      | some _ => .issue .literalError
  | _ => .issue .literalError

end MemberStyle

namespace Config

/-- The names of the settings. -/
def settingNames : List String :=
  ["namespace", "usings", "indent", "enum_separator", "enum_member_style", "accessors", "list_type",
   "scalars", "entity_directive", "aggregator_name", "collection_type"]

/-- Check that every key is the name of a setting. -/
def checkKeys : List (Data × Data) → Checked Unit
  | [] => .valid ()
  | (key, _) :: rest =>
      let checked : Checked Unit :=
        match key with
        | .text name =>
            if name.toString?.any settingNames.contains then .valid () else .issue .extraForbidden
        | _ => .issue .invalidKey
      (fun _ rest => rest) <$> checked.under key.keyPart <*> checkKeys rest

/-- Whether a key has a surrogate. -/
def isBrokenKey : Data → Bool
  | .text name => name.hasSurrogate
  | _ => false

/-- Check the settings among some entries. -/
def ofEntries (entries : List (Data × Data)) : Checked Config :=
  let text (name : String) (default : CodeText) :=
    Data.optional entries name default Data.asText
  Config.mk <$> Data.optional entries "namespace" none (Data.asOptional Data.asText)
    <*> Data.optional entries "usings" [] (Data.asList Data.asText)
    <*> text "indent" ({} : Config).indent
    <*> text "enum_separator" ({} : Config).enumSeparator
    <*> Data.optional entries "enum_member_style" .pascal MemberStyle.ofData
    <*> text "accessors" ({} : Config).accessors
    <*> text "list_type" ({} : Config).listType
    <*> Data.optional entries "scalars" [] Data.asTextMap
    <*> text "entity_directive" ({} : Config).entityDirective
    <*> text "aggregator_name" ({} : Config).aggregatorName
    <*> text "collection_type" ({} : Config).collectionType

/-- Check data that should be settings. -/
def ofData : Data → Checked Config
  | .mapping entries =>
      if entries.any fun entry => isBrokenKey entry.1 then .issue .stringUnicode
      else (fun config _ => config) <$> ofEntries entries <*> checkKeys entries
  | _ => .issue .modelType

/-- A mapping from texts to texts as data. -/
def textMapData (entries : List (CodeText × CodeText)) : Data :=
  .mapping (entries.map fun entry => (.text entry.1, .text entry.2))

/-- A text or the absent value as data. -/
def optionalData (text : Option CodeText) : Data :=
  (text.map .text).getD .null

/-- The settings as data. -/
def toData (config : Config) : Data :=
  .ofFields
    [("namespace", optionalData config.namespaceName),
     ("usings", .list (config.usings.map .text)),
     ("indent", .text config.indent),
     ("enum_separator", .text config.enumSeparator),
     ("enum_member_style", .text config.enumMemberStyle.label),
     ("accessors", .text config.accessors),
     ("list_type", .text config.listType),
     ("scalars", textMapData config.scalars),
     ("entity_directive", .text config.entityDirective),
     ("aggregator_name", .text config.aggregatorName),
     ("collection_type", .text config.collectionType)]

end Config

end SchemaDecl
