import SchemaDecl.Item
import SchemaDecl.Log

/-!
# Merging items

The merge visits the items once, in order.  An object takes over the fields of the interfaces it
implements.  An extension does so too and is then folded into its base, the first item of its name
that is of another kind; an extension without a base becomes an object.  Each visit sees what the
visits before it have left.
-/

namespace SchemaDecl

namespace Merge

/-- The position of the first interface of a name. -/
def interfaceIndex? (items : List Item) (name : String) : Option Nat :=
  items.findIdx? fun item => item.kind == .interface && item.name == name

/-- The first interface of a name. -/
def interface? (items : List Item) (name : String) : Option Item :=
  items.find? fun item => item.kind == .interface && item.name == name

/-- The position of the first item that has the name of another item but not its kind. -/
def baseIndex? (items : List Item) (extension : Item) : Option Nat :=
  items.findIdx? fun item => item.name == extension.name && item.kind != extension.kind

/-- Take over the fields of one interface, if it is declared. -/
def inheritFrom (items : List Item) (item : Item) (interface : String) : Logged Item :=
  match interface? items interface with
  | none => do
      Logged.tell (.undeclaredInterface interface item.name)
      return item
  | some declared => do
      Logged.tell (.injected (item.missingCount declared.fields) interface item.name)
      return item.appendMissing declared.fields

/-- Take over the fields of every interface the item implements, in order. -/
def inherit (items : List Item) (item : Item) : Logged Item :=
  item.interfaces.foldlM (inheritFrom items) item

/-- Let the item at a position inherit from its interfaces. -/
def injectAt (items : List Item) (index : Nat) : Logged (List Item) :=
  match items[index]? with
  | none => return items
  | some item => do
      let item ← inherit items item
      return items.set index item

/-- Fold the item at a position into its base, or make it an object. -/
def foldAt (items : List Item) (index : Nat) : Logged (List Item) :=
  match items[index]? with
  | none => return items
  | some extension =>
      match baseIndex? items extension with
      | none => do
          Logged.tell (.promoted extension.name)
          return items.set index { extension with kind := .object }
      | some base => do
          let added := (items[base]?.map (·.missingCount extension.fields)).getD 0
          Logged.tell (.folded extension.name added)
          return items.modify base (·.absorb extension)

/-- Visit the item at a position. -/
def visit (items : List Item) (index : Nat) : Logged (List Item) :=
  match (items[index]?).map Item.kind with
  | some .object => injectAt items index
  | some .extension => do
      let items ← injectAt items index
      foldAt items index
  | _ => return items

end Merge

/-- Merge interface fields and extensions into the items, which keep their number and order. -/
def merge (items : List Item) : Logged (List Item) := do
  let merged ← (List.range items.length).foldlM Merge.visit items
  Logged.tell (.resolved merged.length)
  return merged

/-- The merged items are the outcome of the visits in order. -/
theorem value_merge (items : List Item) :
    (merge items).value =
      (List.range items.length).foldl (fun items index => (Merge.visit items index).value)
        items := by
  simp [merge, Logged.value_foldlM]

end SchemaDecl
