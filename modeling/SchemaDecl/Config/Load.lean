import SchemaDecl.Config.Data
import SchemaDecl.FileTree
import SchemaDecl.Log
import SchemaDecl.Markup.Value

/-!
# Loading settings

Settings are kept in a markup file whose root is a mapping from the names of settings to their
values.  Without a file, and for a file without a value, all settings have their defaults.
-/

namespace SchemaDecl

/-- Why there are no settings to work with. -/
inductive ConfigFault where
  /-- What the file holds stands for no data. -/
  | markup (fault : MarkupFault)
  /-- The root of the file is something else than a mapping. -/
  | root (kind : ValueKind)
  /-- Something is wrong with the settings. -/
  | issues (issues : List Issue)

namespace ConfigFault

/-- The message of a fault.  That of a text which is no markup and that of faulty settings are
empty. -/
def message : ConfigFault → String
  | root kind =>
      "Codegen config root must be a mapping (YAML object), got " ++ kind.label
  | markup fault => fault.message
  | issues _ => ""

end ConfigFault

namespace Config

/-- The settings that the root of a file stands for. -/
def ofRoot : Data → Except ConfigFault Config
  | .null => .ok {}
  | .mapping entries => (Config.ofData (.mapping entries)).toExcept.mapError .issues
  | root => .error (.root root.kind)

/-- The levels of collections of a settings file that are looked at: the settings, and those that
are themselves collections. -/
def levels : Nat := 2

/-- The value in a settings file. -/
def readRoot (content : List UInt8) : Except ConfigFault Data :=
  (Data.ofMarkup levels (.ofBytes content)).mapError .markup

/-- The settings in the file at a path, if one is given. -/
def load (tree : FileTree) : Option Path → Attempt ConfigFault Config
  | none => do
      Attempt.tell .noConfig
      return {}
  | some path => do
      let content :=
        match tree.find? path with
        | some (_, .file content) => content
        | _ => []
      let root ← ExceptT.mk (pure (readRoot content))
      Attempt.tell (.loadedConfig path.text)
      ExceptT.mk (pure (ofRoot root))

end Config

end SchemaDecl
