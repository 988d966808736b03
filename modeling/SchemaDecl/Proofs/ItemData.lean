import SchemaDecl.Proofs.Export
import SchemaDecl.Proofs.Json
import SchemaDecl.Proofs.Merge.Provenance
import SchemaDecl.Proofs.Sdl.Contents
import SchemaDecl.Proofs.Sdl.TypeText
import SchemaDecl.Proofs.ShapeData

/-!
# Models that are written and read

Items whose shapes are not too deep are read from the JSON text of their model as they were.  The
shapes in a schema text are never too deep, so the program makes no model that is not read back.
Conversely, the shapes of the items that are read are those that the data describe.
-/

namespace SchemaDecl

/-! ## Items become portable data -/

open Data.Json (Portable)

theorem portable_ofNames (names : List String) : Portable (Data.ofNames names) :=
  .list (List.forall_mem_map.2 fun name _ => .text name)

theorem Shape.portable_toData (shape : Shape) : Portable shape.toData := by
  induction shape with
  | leaf notNull name =>
      refine .mapping (by simp) ?_
      simp only [List.forall_mem_cons, List.not_mem_nil, false_implies, implies_true, and_true]
      exact ⟨.boolean notNull, .boolean false, .null, .text name⟩
  | list notNull element inductionHypothesis =>
      refine .mapping (by simp) ?_
      simp only [List.forall_mem_cons, List.not_mem_nil, false_implies, implies_true, and_true]
      exact ⟨.boolean notNull, .boolean true, inductionHypothesis, .null⟩

theorem Field.portable_toData (field : Field) : Portable field.toData := by
  refine .mapping (by simp) ?_
  simp only [List.forall_mem_cons, List.not_mem_nil, false_implies, implies_true, and_true]
  refine ⟨.text field.name, ?_⟩
  cases field.shape with
  | none => exact .null
  | some shape => exact shape.portable_toData

theorem Item.portable_toData (item : Item) : Portable item.toData := by
  refine .mapping (by simp) ?_
  simp only [List.forall_mem_cons, List.not_mem_nil, false_implies, implies_true, and_true]
  exact ⟨.text item.name, .text item.kind.label,
    .list (List.forall_mem_map.2 fun field _ => field.portable_toData),
    portable_ofNames item.interfaces, portable_ofNames item.tags⟩

/-- From the text of a model the data of the items are read. -/
theorem ofJson?_modelText (items : List Item) {ending : String}
    (blank : ∀ char ∈ ending.toList, Data.Json.isSpace char = true) :
    Data.ofJson? (Command.modelText items ++ ending) =
      some (.ofFields [("items", .list (items.map Item.toData))]) := by
  refine Data.Json.ofJson?_toJson (.mapping (by simp) ?_) blank
  rw [List.forall_mem_singleton]
  exact .list (List.forall_mem_map.2 fun item _ => item.portable_toData)

/-! ## Items that were written -/

theorem Field.shapeOfData_eq : shapeOfData = Data.asOptional (Shape.ofDataAt 1) := by
  funext data
  cases data <;> rfl

theorem Field.ofData_toData {field : Field} (fits : field.fits = true) :
    Field.ofData field.toData = .valid field := by
  obtain ⟨name, shape⟩ := field
  have read : shapeOfData ((shape.map Shape.toData).getD .null) = .valid shape := by
    cases shape with
    | none => rfl
    | some shape =>
        have inner : Shape.ofDataAt 1 shape.toData = .valid shape := Shape.ofDataAt_toData fits
        simp [shapeOfData_eq, inner]
  rw [toData, Data.ofFields, ofData]
  simp [Data.required, Data.optional, read]

@[simp] theorem ItemKind.ofData_label (kind : ItemKind) :
    ItemKind.ofData (.text kind.label) = .valid kind := by
  simp [ofData]

/-- An item is read as it is written if there is room for the levels of all its shapes. -/
theorem Item.ofData_toData {item : Item} (fit : ∀ field ∈ item.fields, field.fits = true) :
    Item.ofData item.toData = .valid item := by
  have fields : fieldsOfData (.list (item.fields.map Field.toData)) = .valid item.fields :=
    Checked.elements_map fun field member => Field.ofData_toData (fit field member)
  rw [toData, Data.ofFields, ofData]
  simp [Data.required, Data.optional, fields]

/-! ## Items that can be written -/

/-- The shapes of an item have no more than some number of lists inside each other. -/
def Item.Within (limit : Nat) (item : Item) : Prop :=
  ∀ field ∈ item.fields, ∀ shape, field.shape = some shape → shape.depth ≤ limit

/-- There is room for two levels less than there are in all, one for the field and one for the
leaf. -/
theorem Field.fits_iff (field : Field) :
    field.fits = true ↔ ∀ shape, field.shape = some shape → shape.depth ≤ 253 := by
  rw [fits, Option.all_eq_true]
  refine forall₂_congr fun shape _ => ?_
  rw [Shape.fits, decide_eq_true_iff, levelLimit]
  omega

theorem Item.within_iff (item : Item) :
    item.Within 253 ↔ ∀ field ∈ item.fields, field.fits = true :=
  forall₂_congr fun field _ => field.fits_iff.symm

theorem Item.write_of_within {item : Item} (within : item.Within 253) :
    item.write = .ok item.toData :=
  if_pos (List.all_eq_true.2 (item.within_iff.1 within))

theorem Item.write_of_not_within {item : Item} (deep : ¬item.Within 253) :
    item.write = .error .tooDeep :=
  if_neg fun fit => deep (item.within_iff.2 (List.all_eq_true.1 fit))

/-- Items that are not too deep can all be written. -/
theorem mapM_write_of_within {items : List Item} (within : ∀ item ∈ items, item.Within 253) :
    items.mapM Item.write = .ok (items.map Item.toData) := by
  rw [mapM_eq_ok_iff, List.forall₂_map_right_iff, List.forall₂_same]
  exact fun item member => Item.write_of_within (within item member)

/-- One item that is too deep is enough for none to be written. -/
theorem mapM_write_of_not_within {items : List Item} (deep : ∃ item ∈ items, ¬item.Within 253) :
    items.mapM Item.write = .error .tooDeep := by
  obtain ⟨item, member, tooDeep⟩ := deep
  cases written : items.mapM Item.write with
  | error fault => rfl
  | ok elements =>
      have each : List.Forall₂ (fun item element => item.Within 253 ∧ item.write = .ok element)
          items elements := by
        refine ((mapM_eq_ok_iff _ _ _).1 written).imp fun other element done => ⟨?_, done⟩
        by_contra otherDeep
        rw [Item.write_of_not_within otherDeep] at done
        cases done
      exact absurd (((List.forall₂_and_left _ _).1 each).1 item member) tooDeep

/-- A text is that of a model: the data of the items are read from it, and the items from these. -/
def IsModelText (items : List Item) (text : String) : Prop :=
  ∃ elements, items.mapM Item.write = .ok elements ∧
    Data.ofJson? text = some (.ofFields [("items", .list elements)]) ∧
    elements.mapM (fun element => (Item.ofData element).toExcept) = .ok items

theorem isModelText_append {items : List Item} (within : ∀ item ∈ items, item.Within 253)
    {ending : String} (blank : ∀ char ∈ ending.toList, Data.Json.isSpace char = true) :
    IsModelText items (Command.modelText items ++ ending) := by
  refine ⟨_, mapM_write_of_within within, ofJson?_modelText items blank, ?_⟩
  rw [mapM_eq_ok_iff, List.forall₂_map_left_iff, List.forall₂_same]
  intro item member
  rw [Item.ofData_toData (item.within_iff.1 (within item member))]
  rfl

theorem isModelText_modelText {items : List Item} (within : ∀ item ∈ items, item.Within 253) :
    IsModelText items (Command.modelText items) := by
  rw [← String.append_empty (s := Command.modelText items)]
  exact isModelText_append within (by simp)

/-! ## Models of documents -/

/-- A field whose definition is not too deep is not, either. -/
theorem FieldDefinition.depth_of_field {definition : FieldDefinition} {field : Field}
    {shape : Shape} {limit : Nat}
    (visited : definition.field = .ok field)
    (within : definition.type.Within limit)
    (shaped : field.shape = some shape) :
    shape.depth ≤ limit := by
  unfold FieldDefinition.field at visited
  obtain ⟨_, _, visited⟩ := (Sdl.exceptBind_eq_ok_iff _ _ _).1 visited
  obtain ⟨found, given, visited⟩ := (Sdl.exceptBind_eq_ok_iff _ _ _).1 visited
  cases visited
  cases shaped
  exact within false _ given

theorem FieldDefinition.within_of_mapM {definitions : List FieldDefinition} {fields : List Field}
    {limit : Nat}
    (visited : definitions.mapM field = .ok fields)
    (within : ∀ definition ∈ definitions, definition.type.Within limit) :
    ∀ field ∈ fields, ∀ shape, field.shape = some shape → shape.depth ≤ limit := by
  refine forall_mem_of_mapM_eq_ok ?_ visited
  intro definition member field made shape shaped
  exact depth_of_field made (within definition member) shaped

/-- The item of a definition that is not too deep is not, either. -/
theorem Definition.Within.given? {definition : Definition} {item : Item} {limit : Nat}
    (within : definition.Within limit)
    (gives : definition.given? = some item) :
    item.Within limit := by
  rw [given?_eq_some_iff] at gives
  rcases item?_cases gives with ⟨role, type, fields, rfl, visited, rfl⟩ |
    ⟨type, fields, rfl, visited, rfl⟩ | ⟨role, type, rfl, rfl⟩
  · exact FieldDefinition.within_of_mapM visited within
  · exact FieldDefinition.within_of_mapM visited within
  · -- The values of an enum have no shapes.
    intro field member shape shaped
    obtain ⟨value, _, rfl⟩ := List.mem_map.1 member
    cases shaped

/-- All fields of a model have come from the definitions of the document. -/
theorem within_of_typeModel {document : Document} {items : List Item} {limit : Nat}
    (within : ∀ definition ∈ document.definitions, definition.Within limit)
    (modelled : (typeModel (some document)).run.value = .ok items) :
    ∀ item ∈ items, item.Within limit := by
  rw [value_typeModel] at modelled
  obtain ⟨collected, found, rfl⟩ := (map_eq_ok_iff _ _ _).1 modelled
  intro item member field inFields
  obtain ⟨source, isSource, inSource⟩ := Merge.exists_source_of_mem_fields member inFields
  rw [((value_collect_eq_ok_iff document collected).1 found).2] at isSource
  obtain ⟨definition, inDocument, gives⟩ := List.mem_filterMap.1 isSource
  exact (within definition inDocument).given? gives field inSource

/-- The types in a schema text are not too deep. -/
theorem within_of_typeModel_ofText {text : String} {document : Document} {items : List Item}
    (read : Document.ofText text = .ok document)
    (modelled : (typeModel (some document)).run.value = .ok items) :
    ∀ item ∈ items, item.Within 253 := by
  have collected := modelled
  rw [value_typeModel] at collected
  obtain ⟨_, collected, _⟩ := (map_eq_ok_iff _ _ _).1 collected
  have within := Document.within_of_ofText read collected
  exact within_of_typeModel
    (fun definition member => (within definition member).mono (by decide)) modelled

theorem FileTree.exists_text_of_readDocument {tree : FileTree} {paths : List Path}
    {document : Document}
    (read : tree.readDocument paths = .ok document) :
    ∃ text, Document.ofText text = .ok document := by
  obtain ⟨text, _, read⟩ := (Sdl.exceptBind_eq_ok_iff _ _ _).1 read
  by_cases blank : Text.isBlank text
  · simp [blank, throw, throwThe, MonadExceptOf.throw, bind, Except.bind] at read
  · simp only [blank, if_false, Bool.false_eq_true] at read
    exact ⟨text, (mapError_eq_ok_iff _ _ _).1 read⟩

namespace Command

theorem value_typeModel_of_checkedModel {document : Document} {items : List Item}
    (checked : (checkedModel document).run.value = .ok items) :
    (typeModel (some document)).run.value = .ok items := by
  rw [checkedModel, ExceptT.run_mk, Logged.value_bind] at checked
  cases modelled : (typeModel (some document)).run.value with
  | ok model =>
      rw [modelled] at checked
      cases checked
      rfl
  | error fault =>
      rw [modelled] at checked
      cases fault <;> cases checked

/-- What is loaded has been read from a text, so its types are not too deep. -/
theorem within_of_loadModel {tree : FileTree} {schemas : List Path} {items : List Item}
    (loaded : (loadModel tree schemas).run.value = .ok items) :
    ∀ item ∈ items, item.Within 253 := by
  obtain ⟨document, found, checked⟩ := (Attempt.value_bind_eq_ok_iff _ _ _).1 loaded
  rw [Attempt.value_mapFault_eq_ok_iff] at found
  obtain ⟨_, read, found⟩ := (Attempt.value_bind_eq_ok_iff _ _ _).1 found
  cases found
  obtain ⟨text, given⟩ := FileTree.exists_text_of_readDocument read
  exact within_of_typeModel_ofText given (value_typeModel_of_checkedModel checked)

/-- The text that a job has made, in its file or to be printed. -/
def Product.text? (product : Product) : Option CodeText :=
  match product.file with
  | some (_, text) => some text
  | none => product.printed.toOption.map .ofString

/-- Whether it is printed or put into a file, what the job for a model makes is the text of the
model that is loaded. -/
theorem exists_model_of_product {tree : FileTree} {schemas : List Path} {output : Option Path}
    {product : Product}
    (produced : (Job.product tree (.model schemas output)).run.value = .ok product) :
    ∃ items text, (loadModel tree schemas).run.value = .ok items ∧
      product.text? = some (.ofString text) ∧ IsModelText items text := by
  obtain ⟨items, loaded, made⟩ := (Attempt.value_bind_eq_ok_iff _ _ _).1 produced
  have within := within_of_loadModel loaded
  cases output with
  | none =>
      cases made
      have printed : IsModelText items (modelText items ++ "\n") :=
        isModelText_append within (by simp [Data.Json.isSpace])
      exact ⟨items, _, loaded, rfl, printed⟩
  | some output =>
      cases made
      exact ⟨items, _, loaded, rfl, isModelText_modelText within⟩

end Command

/-! ## Items from data -/

/-- A field that is read has no shape if the data have none, and otherwise one that is read. -/
def Field.ReadFrom (data : Data) (field : Field) : Prop :=
  ∃ entries, data = .mapping entries ∧
    match field.shape with
    | none => ∀ held, Data.field? "shape" entries = some held → held = .null
    | some shape => ∃ held, Data.field? "shape" entries = some held ∧ shape.ReadFrom 1 held

theorem Field.readFrom_of_ofData {data : Data} {field : Field}
    (valid : Field.ofData data = .valid field) :
    field.ReadFrom data := by
  cases data with
  | mapping entries =>
      obtain ⟨_, shape, first, shaped, rfl⟩ := (Checked.seq_eq_valid_iff _ _ _).1 valid
      obtain ⟨name, _, rfl⟩ := (Checked.map_eq_valid_iff _ _ _).1 first
      rw [shapeOfData_eq, Data.optional_eq_valid_iff] at shaped
      refine ⟨entries, rfl, ?_⟩
      cases shape with
      | none =>
          intro held present
          rcases shaped with ⟨absent, -⟩ | ⟨other, given, isNull⟩
          · cases absent.symm.trans present
          · cases given.symm.trans present
            exact (Data.asOptional_eq_none_iff _ _).1 isNull
      | some shape =>
          rcases shaped with ⟨-, ⟨⟩⟩ | ⟨held, present, isSome⟩
          have read := ((Data.asOptional_eq_some_iff _ _ _).1 isSome).2
          exact ⟨held, present, Shape.readFrom_of_ofDataAt read⟩
  | _ => cases valid

/-- An item that is read has no fields if the data have none, and otherwise fields that are read one
by one. -/
def Item.ReadFrom (data : Data) (item : Item) : Prop :=
  ∃ entries, data = .mapping entries ∧
    (Data.field? "fields" entries = none ∧ item.fields = [] ∨
      ∃ elements, Data.field? "fields" entries = some (.list elements) ∧
        List.Forall₂ Field.ReadFrom elements item.fields)

theorem Item.readFrom_of_ofData {data : Data} {item : Item}
    (valid : Item.ofData data = .valid item) :
    item.ReadFrom data := by
  cases data with
  | mapping entries =>
      obtain ⟨_, _, upToInterfaces, _, rfl⟩ := (Checked.seq_eq_valid_iff _ _ _).1 valid
      obtain ⟨_, _, upToFields, _, rfl⟩ := (Checked.seq_eq_valid_iff _ _ _).1 upToInterfaces
      obtain ⟨_, fields, upToKind, checked, rfl⟩ := (Checked.seq_eq_valid_iff _ _ _).1 upToFields
      obtain ⟨_, _, upToName, _, rfl⟩ := (Checked.seq_eq_valid_iff _ _ _).1 upToKind
      obtain ⟨_, _, rfl⟩ := (Checked.map_eq_valid_iff _ _ _).1 upToName
      refine ⟨entries, rfl, ?_⟩
      rcases (Data.optional_eq_valid_iff _ _ _ _ _).1 checked with
        ⟨absent, same⟩ | ⟨held, present, read⟩
      · exact Or.inl ⟨absent, same.symm⟩
      · cases held with
        | list elements =>
            have each := (Checked.elements_eq_valid_iff _ _ _ _).1 read
            exact Or.inr ⟨elements, present, each.imp fun _ _ => Field.readFrom_of_ofData⟩
        | _ => cases read
  | _ => cases valid

/-! ## Writing and reading -/

/-- What is written for a list of items is read back as the same items, with all levels of their
shapes, unless an item has shapes that are too deep to be written.  So it is with the model of a
document that is not too deep and with every model that the program makes a text of.  Conversely, a
shape that is read, by itself or in an item, has the record that the data describe.  The record is
sound at every level, and the name of the leaf is the one at the innermost level.  What data
describe is accepted exactly if it is sound. -/
theorem model_reads_back :
    (∀ items : List Item, (∀ item ∈ items, item.Within 253) →
      IsModelText items (Command.modelText items)) ∧
    (∀ items : List Item, (∃ item ∈ items, ¬item.Within 253) →
      items.mapM Item.write = .error .tooDeep) ∧
    (∀ (document : Document) (items : List Item),
      (∀ definition ∈ document.definitions, definition.Within 253) →
      (typeModel (some document)).run.value = .ok items →
      IsModelText items (Command.modelText items)) ∧
    (∀ (tree : FileTree) (schemas : List Path) (output : Option Path) (product : Command.Product),
      (Command.Job.product tree (.model schemas output)).run.value = .ok product →
      ∃ items text, (Command.loadModel tree schemas).run.value = .ok items ∧
        product.text? = some (.ofString text) ∧ IsModelText items text) ∧
    (∀ (data : Data) (shape : Shape), Shape.ofData data = .valid shape → shape.ReadFrom 0 data) ∧
    (∀ (data : Data) (item : Item), Item.ofData data = .valid item → item.ReadFrom data) ∧
    ∀ (level : Nat) (data : Data) (record : ShapeRecord), record.Describes level data →
      (record.Sound ↔ ∃ shape, Shape.ofDataAt level data = .valid shape) := by
  refine ⟨fun _ => isModelText_modelText, fun _ => mapM_write_of_not_within, ?_,
    fun _ _ _ _ => Command.exists_model_of_product, fun _ _ => Shape.readFrom_of_ofDataAt,
    fun _ _ => Item.readFrom_of_ofData, fun _ _ _ described => described.sound_iff⟩
  intro document items within modelled
  exact isModelText_modelText (within_of_typeModel within modelled)

/-- A type with rows of rows, and an enum. -/
def gardenText : String :=
  "type Bed @key \x7b rows: [[Plant!]!] \x7d enum Plant \x7b SAGE \x7d"

/-- A tree with the schema file. -/
def gardenTree : FileTree where
  root := "/garden"
  entries := [(["garden.gql"], .file (FileTree.plainBytes gardenText))]
  distinct := by decide
  named := by decide
  held := by simp

/-- The document of the file. -/
def gardenDocument : Document :=
  ⟨[.object .definition
      { name := "Bed"
        directives := [{ name := "key" }]
        fields :=
          [{ name := "rows",
             type := .list (.nonNull (.list (.nonNull (.named "Plant")))) }] },
    .enum .definition { name := "Plant", values := [{ name := "SAGE" }] }]⟩

/-- The shape of the rows. -/
def rowsShape : Shape :=
  .list false (.list true (.leaf true "Plant"))

/-- The type model of the document. -/
def gardenItems : List Item :=
  [{ name := "Bed"
     kind := .object
     fields := [{ name := "rows", shape := some rowsShape }]
     tags := ["key"] },
   { name := "Plant", kind := .enum, fields := [{ name := "SAGE" }] }]

theorem typeModel_gardenDocument :
    (typeModel (some gardenDocument)).run.value = .ok gardenItems := rfl

theorem loadModel_gardenTree :
    (Command.loadModel gardenTree [⟨["garden.gql"]⟩]).run.value = .ok gardenItems := by
  have joined : (gardenTree.schemaText [⟨["garden.gql"]⟩]).toOption =
      some (gardenText ++ "\n") := by decide +kernel
  have read : Document.ofText (gardenText ++ "\n") = .ok gardenDocument := rfl
  have found : (gardenTree.loadDocument [⟨["garden.gql"]⟩]).run.value = .ok gardenDocument :=
    (Attempt.value_bind_eq_ok_iff _ _ _).2
      ⟨gardenDocument, FileTree.readDocument_of_schemaText (eq_ok_of_toOption joined) read, rfl⟩
  exact (Attempt.value_bind_eq_ok_iff _ _ _).2
    ⟨gardenDocument, (Attempt.value_mapFault_eq_ok_iff _ _ _).2 found,
      Command.value_checkedModel typeModel_gardenDocument⟩

/-- Data for a list of required plants, with the parts left out that have their defaults and with
truth values in other forms. -/
def plantsData : Data :=
  .ofFields
    [("is_list", .text "yes"),
     ("element_shape", .ofFields [("scalar_name", .text "Plant"), ("is_not_null", .integer 1)])]

/-- Data for a type with a field of that shape. -/
def plotData : Data :=
  .ofFields
    [("kind", .text "object"),
     ("name", .text "Plot"),
     ("fields", .list [.ofFields [("name", .text "plants"), ("shape", plantsData)]])]

/-- Data for a list whose elements are said to be lists and have a name. -/
def weedsData : Data :=
  .ofFields
    [("is_list", .boolean true),
     ("element_shape", .ofFields [("is_list", .boolean true), ("scalar_name", .text "Weed")])]

/-- An item with one list more than there is room for. -/
def wellItem : Item where
  name := "Well"
  kind := .object
  fields := [{ name := "shafts", shape := some (nestedLists 254) }]

theorem not_within_wellItem : ¬wellItem.Within 253 := by
  intro within
  have shallow := within _ List.mem_cons_self _ rfl
  rw [depth_nestedLists] at shallow
  exact absurd shallow (by decide)

/-- The model of the garden is read back from its text and from what the program prints, while a
well among the items is too deep.  The plot is read with a list of required plants, and is read back
in turn.  The weeds are described well enough but not accepted, since their elements are no
lists. -/
theorem model_reads_back_gardenItems :
    IsModelText gardenItems (Command.modelText gardenItems) ∧
      (wellItem :: gardenItems).mapM Item.write = .error .tooDeep ∧
      (∃ product text, (Command.Job.product gardenTree
          (.model [⟨["garden.gql"]⟩] none)).run.value = .ok product ∧
        product.text? = some (.ofString text) ∧ IsModelText gardenItems text) ∧
      (Shape.list false (.leaf true "Plant")).ReadFrom 0 plantsData ∧
      (∃ item, Item.ofData plotData = .valid item ∧ item.ReadFrom plotData ∧
        item.fields = [{ name := "plants", shape := some (.list false (.leaf true "Plant")) }] ∧
        IsModelText [item] (Command.modelText [item])) ∧
      ¬∃ shape, Shape.ofDataAt 0 weedsData = .valid shape := by
  obtain ⟨ofItems, tooDeep, ofDocument, ofJob, ofShape, ofItem, ofRecord⟩ := model_reads_back
  have readable : Document.ofText gardenText = .ok gardenDocument := rfl
  have collected : (collect (some gardenDocument)).run.value = .ok gardenItems := rfl
  have within : ∀ definition ∈ gardenDocument.definitions, definition.Within 253 :=
    fun definition member =>
      (Document.within_of_ofText readable collected definition member).mono (by decide)
  obtain ⟨product, produced⟩ : ∃ product, (Command.Job.product gardenTree
      (.model [⟨["garden.gql"]⟩] none)).run.value = .ok product :=
    ⟨_, (Attempt.value_bind_eq_ok_iff _ _ _).2 ⟨gardenItems, loadModel_gardenTree, rfl⟩⟩
  obtain ⟨items, text, loaded, made, isText⟩ := ofJob _ _ _ _ produced
  cases loadModel_gardenTree.symm.trans loaded
  have shaped (level : Nat) (room : level + 1 < levelLimit) :
      Shape.ofDataAt level plantsData = .valid (.list false (.leaf true "Plant")) :=
    (Shape.ofDataAt_eq_valid_iff _ _ _).2
      (.nested ⟨rfl, rfl, rfl⟩ rfl room (.bare ⟨rfl, rfl, rfl⟩ fun _ found => by cases found))
  obtain ⟨item, plotted, fields⟩ : ∃ item, Item.ofData plotData = .valid item ∧
      item.fields = [{ name := "plants", shape := some (.list false (.leaf true "Plant")) }] := by
    have inField : Field.shapeOfData plantsData = _ := congrArg (some <$> ·) (shaped 1 (by decide))
    refine ⟨{ name := "Plot", kind := .object, fields := [{ name := "plants", shape := _ }] }, ?_,
      rfl⟩
    have kind : ItemKind.ofData (.text "object") = .valid .object := ItemKind.ofData_label .object
    simp [plotData, Data.ofFields, Item.ofData, Data.required, Data.optional, Data.field?, kind,
      Item.fieldsOfData, Checked.elements, Field.ofData, inField]
  have shallow : ∀ other ∈ [item], other.Within 253 := by
    simp [Item.Within, fields]
  have described : ShapeRecord.Describes 0 weedsData
      (.mk false true (some (.mk false true none (some "Weed"))) none) :=
    .nested ⟨rfl, rfl, rfl⟩ rfl (by decide) (.bare ⟨rfl, rfl, rfl⟩ fun _ found => by cases found)
  refine ⟨ofDocument _ _ within typeModel_gardenDocument,
    tooDeep _ ⟨wellItem, List.mem_cons_self, not_within_wellItem⟩,
    ⟨product, text, produced, made, isText⟩, ofShape _ _ (shaped 0 (by decide)),
    ⟨item, plotted, ofItem _ _ plotted, fields, ofItems _ shallow⟩, fun accepted => ?_⟩
  have sound := (ofRecord _ _ _ described).2 accepted
  cases sound with
  | list _ inner => cases inner

/-- A document with the item of a well has a model that is not written, and so there is no text
which it is read back from. -/
theorem not_isModelText_wellItem :
    (∃ document, (typeModel (some document)).run.value = .ok [wellItem]) ∧
      [wellItem].mapM Item.write = .error .tooDeep ∧ ∀ text, ¬IsModelText [wellItem] text := by
  have refused : [wellItem].mapM Item.write = .error .tooDeep :=
    mapM_write_of_not_within ⟨wellItem, List.mem_cons_self, not_within_wellItem⟩
  refine ⟨⟨⟨[.object .definition
      { name := "Well"
        fields := [{ name := "shafts", type := (nestedLists 254).reference }] }]⟩, ?_⟩,
    refused, ?_⟩
  · exact eq_ok_of_toOption (by decide +kernel)
  · rintro text ⟨elements, written, -⟩
    cases refused.symm.trans written

end SchemaDecl
