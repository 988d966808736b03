import Mathlib.Data.List.Forall2
import SchemaDecl.Proofs.TypeReference

/-!
# Shapes in data

A shape is read from data as it was written, as long as there is room for its levels.  Conversely,
`ShapeRecord.Describes` says which record data describe when every part is looked at by itself.  It
is accepted exactly if it is sound, so every shape that is read is sound at every level.
-/

namespace SchemaDecl

/-! ## Checks that succeed -/

namespace Checked

variable {α β : Type}

theorem map_eq_valid_iff (convert : α → β) (checked : Checked α) (result : β) :
    convert <$> checked = .valid result ↔
      ∃ value, checked = .valid value ∧ convert value = result := by
  cases checked with
  | valid value => simp
  | invalid issues => simp

theorem seq_eq_valid_iff (convert : Checked (α → β)) (argument : Checked α) (result : β) :
    convert <*> argument = .valid result ↔
      ∃ function value, convert = .valid function ∧ argument = .valid value ∧
        function value = result := by
  change apply convert argument = _ ↔ _
  cases convert <;> cases argument <;> simp [apply]

theorem under_eq_valid_iff (part : PathPart) (checked : Checked α) (value : α) :
    checked.under part = .valid value ↔ checked = .valid value := by
  cases checked with
  | valid other => rfl
  | invalid issues => simp [under]

theorem andThen_eq_valid_iff (first : Checked α) (next : α → Checked β) (result : β) :
    first.andThen next = .valid result ↔
      ∃ value, first = .valid value ∧ next value = .valid result := by
  cases first with
  | valid value => simp
  | invalid issues => simp [andThen]

/-- The elements of a list are sound exactly if each of them is. -/
theorem elements_eq_valid_iff (check : Data → Checked α) (index : Nat) (elements : List Data)
    (values : List α) :
    Checked.elements check index elements = .valid values ↔
      List.Forall₂ (fun element value => check element = .valid value) elements values := by
  induction elements generalizing index values with
  | nil =>
      rw [List.forall₂_nil_left_iff]
      constructor
      · rintro ⟨⟩
        rfl
      · rintro rfl
        rfl
  | cons first rest inductionHypothesis =>
      rw [Checked.elements, seq_eq_valid_iff, List.forall₂_cons_left_iff]
      constructor
      · rintro ⟨function, others, head, tail, rfl⟩
        obtain ⟨value, found, rfl⟩ := (map_eq_valid_iff _ _ _).1 head
        exact ⟨value, others, (under_eq_valid_iff _ _ _).1 found,
          (inductionHypothesis _ _).1 tail, rfl⟩
      · rintro ⟨value, others, found, tail, rfl⟩
        refine ⟨_, others, ?_, (inductionHypothesis _ _).2 tail, rfl⟩
        exact (map_eq_valid_iff _ _ _).2 ⟨value, (under_eq_valid_iff _ _ _).2 found, rfl⟩

/-- Values that are read as they are written by themselves are so in a list. -/
theorem elements_map {check : Data → Checked α} {write : α → Data} {values : List α}
    (each : ∀ value ∈ values, check (write value) = .valid value) :
    Checked.elements check 0 (values.map write) = .valid values := by
  rw [elements_eq_valid_iff, List.forall₂_map_left_iff, List.forall₂_same]
  exact each

end Checked

namespace Data

theorem optional_eq_valid_iff {α : Type} (entries : List (Data × Data)) (name : String)
    (default : α) (check : Data → Checked α) (value : α) :
    optional entries name default check = .valid value ↔
      field? name entries = none ∧ default = value ∨
        ∃ held, field? name entries = some held ∧ check held = .valid value := by
  unfold optional
  cases field? name entries with
  | none => simp
  | some held => simp [Checked.under_eq_valid_iff]

@[simp] theorem asOptional_null {α : Type} (check : Data → Checked α) :
    asOptional check null = .valid none := rfl

@[simp] theorem asOptional_text {α : Type} (check : Data → Checked α) (value : CodeText) :
    asOptional check (text value) = some <$> check (text value) := rfl

theorem asOptional_eq_none_iff {α : Type} (check : Data → Checked α) (data : Data) :
    asOptional check data = .valid none ↔ data = .null := by
  cases data with
  | null => simp
  | _ => simp [asOptional, Checked.map_eq_valid_iff]

theorem asOptional_eq_some_iff {α : Type} (check : Data → Checked α) (data : Data) (value : α) :
    asOptional check data = .valid (some value) ↔ data ≠ .null ∧ check data = .valid value := by
  cases data with
  | null => simp
  | _ => simp [asOptional, Checked.map_eq_valid_iff]

@[simp] theorem asString_text (name : String) : asString (.text name) = .valid name := by
  simp [asString, asText]

@[simp] theorem asList_ofNames (names : List String) :
    asList asString (ofNames names) = .valid names :=
  Checked.elements_map fun name _ => asString_text name

end Data

/-! ## Shapes that were written -/

namespace Shape

/-- Check data that should be the element of a shape below a number of levels. -/
def elementOfData (level : Nat) (data : Data) : Checked Shape :=
  if level + 1 < levelLimit then ofDataAt (level + 1) data else .issue .recursionDepthExceeded

/-- The element of a shape is an optional part like the others. -/
theorem ofDataAt_mapping (level : Nat) (entries : List (Data × Data)) :
    ofDataAt level (.mapping entries) =
      ofEntries entries
        (Data.optional entries "element_shape" none (Data.asOptional (elementOfData level))) := by
  rw [ofDataAt]
  congr 1
  unfold Data.optional Data.asOptional elementOfData
  split
  · rename_i absent
    rw [absent]
  · rename_i absent
    rw [absent]
    rfl
  · rename_i element given present
    rw [present]
    cases element with
    | null => exact absurd rfl given
    | _ =>
        by_cases room : level + 1 < levelLimit
        · simp only [if_pos room]
        · simp only [if_neg room]
          rfl

@[simp] theorem asOptional_toData (check : Data → Checked Shape) (shape : Shape) :
    Data.asOptional check shape.toData = some <$> check shape.toData := by
  cases shape <;> rfl

/-- A shape is read as it is written if there is room for its levels. -/
theorem ofDataAt_toData {shape : Shape} {level : Nat} (fits : shape.fits level = true) :
    ofDataAt level shape.toData = .valid shape := by
  induction shape generalizing level with
  | leaf notNull name =>
      rw [toData, Data.ofFields, ofDataAt_mapping]
      simp [ofEntries, Data.optional, Data.asBoolean, ofParts]
  | list notNull element inductionHypothesis =>
      have deeper : level + 1 + element.depth < levelLimit := by
        have levels := of_decide_eq_true fits
        rw [depth_list] at levels
        omega
      have room : level + 1 < levelLimit := Nat.lt_of_le_of_lt (Nat.le_add_right _ _) deeper
      have read : elementOfData level element.toData = .valid element := by
        rw [elementOfData, if_pos room, inductionHypothesis (decide_eq_true deeper)]
      rw [toData, Data.ofFields, ofDataAt_mapping]
      simp [ofEntries, Data.optional, read, Data.asBoolean, ofParts]

end Shape

/-! ## What data describe -/

/-- The parts of a shape that data have besides its element. -/
structure ShapeRecord.Parts (entries : List (Data × Data)) (notNull isList : Bool)
    (name : Option String) : Prop where
  notNull : Data.optional entries "is_not_null" false Data.asBoolean = .valid notNull
  isList : Data.optional entries "is_list" false Data.asBoolean = .valid isList
  name : Data.optional entries "scalar_name" none (Data.asOptional Data.asString) = .valid name

/-- Data below a number of levels describe a record, every part of which is looked at by itself. -/
inductive ShapeRecord.Describes : Nat → Data → ShapeRecord → Prop
  | bare {level : Nat} {entries : List (Data × Data)} {notNull isList : Bool}
      {name : Option String}
      (parts : Parts entries notNull isList name)
      (absent : ∀ held, Data.field? "element_shape" entries = some held → held = .null) :
      Describes level (.mapping entries) (.mk notNull isList none name)
  | nested {level : Nat} {entries : List (Data × Data)} {notNull isList : Bool}
      {name : Option String} {held : Data} {element : ShapeRecord}
      (parts : Parts entries notNull isList name)
      (present : Data.field? "element_shape" entries = some held)
      (room : level + 1 < levelLimit)
      (inner : Describes (level + 1) held element) :
      Describes level (.mapping entries) (.mk notNull isList (some element) name)

namespace ShapeRecord

theorem Parts.unique {entries : List (Data × Data)} {notNull isList otherNotNull otherIsList : Bool}
    {name otherName : Option String}
    (parts : Parts entries notNull isList name)
    (others : Parts entries otherNotNull otherIsList otherName) :
    notNull = otherNotNull ∧ isList = otherIsList ∧ name = otherName :=
  ⟨Checked.valid.inj (parts.notNull.symm.trans others.notNull),
    Checked.valid.inj (parts.isList.symm.trans others.isList),
    Checked.valid.inj (parts.name.symm.trans others.name)⟩

/-- Data describe no more than one record. -/
theorem Describes.unique {level : Nat} {data : Data} {record other : ShapeRecord}
    (described : Describes level data record)
    (otherDescribed : Describes level data other) :
    record = other := by
  induction described generalizing other with
  | bare parts absent =>
      cases otherDescribed with
      | bare otherParts =>
          obtain ⟨rfl, rfl, rfl⟩ := parts.unique otherParts
          rfl
      | nested _ present _ inner =>
          cases absent _ present
          cases inner
  | nested parts present _ inner inductionHypothesis =>
      cases otherDescribed with
      | bare _ absent =>
          cases absent _ present
          cases inner
      | nested otherParts otherPresent _ otherInner =>
          obtain ⟨rfl, rfl, rfl⟩ := parts.unique otherParts
          cases present.symm.trans otherPresent
          rw [inductionHypothesis otherInner]

end ShapeRecord

namespace Shape

theorem ofEntries_eq_valid_iff (entries : List (Data × Data)) (element : Checked (Option Shape))
    (shape : Shape) :
    ofEntries entries element = .valid shape ↔
      ∃ notNull isList name inner, ShapeRecord.Parts entries notNull isList name ∧
        element = .valid inner ∧ ofParts notNull isList inner name = .valid shape := by
  unfold ofEntries
  simp only [Checked.andThen_eq_valid_iff, Checked.seq_eq_valid_iff, Checked.map_eq_valid_iff]
  constructor
  · rintro ⟨_, ⟨_, _, ⟨_, ⟨_, isList, ⟨notNull, isNotNull, rfl⟩, isIsList, rfl⟩, rfl⟩,
      ⟨_, name, ⟨inner, isInner, rfl⟩, isName, rfl⟩, rfl⟩, whole⟩
    exact ⟨notNull, isList, name, inner, ⟨isNotNull, isIsList, isName⟩, isInner, whole⟩
  · rintro ⟨notNull, isList, name, inner, parts, isInner, whole⟩
    exact ⟨_, ⟨_, _, ⟨_, ⟨_, isList, ⟨notNull, parts.notNull, rfl⟩, parts.isList, rfl⟩, rfl⟩,
      ⟨_, name, ⟨inner, isInner, rfl⟩, parts.name, rfl⟩, rfl⟩, whole⟩

theorem exists_entries_of_ofDataAt {level : Nat} {data : Data} {shape : Shape}
    (valid : ofDataAt level data = .valid shape) :
    ∃ entries, data = .mapping entries := by
  cases data with
  | mapping entries => exact ⟨entries, rfl⟩
  | _ =>
      rw [ofDataAt] at valid
      · cases valid
      · rintro _ ⟨⟩

theorem element_eq_none_iff (level : Nat) (entries : List (Data × Data)) :
    Data.optional entries "element_shape" none (Data.asOptional (elementOfData level)) =
        .valid none ↔
      ∀ held, Data.field? "element_shape" entries = some held → held = .null := by
  simp only [Data.optional_eq_valid_iff, Data.asOptional_eq_none_iff]
  cases Data.field? "element_shape" entries with
  | none => simp
  | some held => simp

theorem element_eq_some_iff (level : Nat) (entries : List (Data × Data)) (element : Shape) :
    Data.optional entries "element_shape" none (Data.asOptional (elementOfData level)) =
        .valid (some element) ↔
      ∃ held, Data.field? "element_shape" entries = some held ∧ level + 1 < levelLimit ∧
        ofDataAt (level + 1) held = .valid element := by
  simp only [Data.optional_eq_valid_iff, Data.asOptional_eq_some_iff]
  constructor
  · rintro (⟨_, ⟨⟩⟩ | ⟨held, present, -, valid⟩)
    rw [elementOfData] at valid
    by_cases room : level + 1 < levelLimit
    · exact ⟨held, present, room, (if_pos room).symm.trans valid⟩
    · cases (if_neg room).symm.trans valid
  · rintro ⟨held, present, room, valid⟩
    obtain ⟨inside, rfl⟩ := exists_entries_of_ofDataAt valid
    exact Or.inr ⟨_, present, Data.noConfusion, (if_pos room).trans valid⟩

/-- The shape that data give is the one whose record they describe. -/
theorem ofDataAt_eq_valid_iff (level : Nat) (data : Data) (shape : Shape) :
    ofDataAt level data = .valid shape ↔ ShapeRecord.Describes level data shape.record := by
  induction shape generalizing level data with
  | leaf notNull word =>
      constructor
      · intro valid
        obtain ⟨entries, rfl⟩ := exists_entries_of_ofDataAt valid
        rw [ofDataAt_mapping, ofEntries_eq_valid_iff] at valid
        obtain ⟨_, _, _, _, parts, isInner, whole⟩ := valid
        obtain ⟨rfl, rfl, rfl, rfl⟩ := (ofParts_eq_valid_iff _ _ _ _ _).1 whole
        exact .bare parts ((element_eq_none_iff level entries).1 isInner)
      · rintro (⟨parts, absent⟩ | _)
        rw [ofDataAt_mapping, ofEntries_eq_valid_iff]
        exact ⟨notNull, false, some word, none, parts,
          (element_eq_none_iff level _).2 absent, rfl⟩
  | list notNull element inductionHypothesis =>
      constructor
      · intro valid
        obtain ⟨entries, rfl⟩ := exists_entries_of_ofDataAt valid
        rw [ofDataAt_mapping, ofEntries_eq_valid_iff] at valid
        obtain ⟨_, _, _, _, parts, isInner, whole⟩ := valid
        obtain ⟨rfl, rfl, rfl, rfl⟩ := (ofParts_eq_valid_iff _ _ _ _ _).1 whole
        obtain ⟨held, present, room, inner⟩ := (element_eq_some_iff level entries element).1 isInner
        exact .nested parts present room ((inductionHypothesis _ _).1 inner)
      · rintro (_ | ⟨parts, present, room, inner⟩)
        rw [ofDataAt_mapping, ofEntries_eq_valid_iff]
        exact ⟨notNull, true, none, some element, parts, (element_eq_some_iff level _ element).2
          ⟨_, present, room, (inductionHypothesis _ _).2 inner⟩, rfl⟩

end Shape

namespace ShapeRecord

/-- What data describe is accepted exactly if it is sound at every level, and then as it is. -/
theorem Describes.sound_iff {level : Nat} {data : Data} {record : ShapeRecord}
    (described : Describes level data record) :
    record.Sound ↔ ∃ shape, Shape.ofDataAt level data = .valid shape := by
  constructor
  · intro sound
    obtain ⟨shape, rfl⟩ := sound.exists_record
    exact ⟨shape, (Shape.ofDataAt_eq_valid_iff level data shape).2 described⟩
  · rintro ⟨shape, valid⟩
    rw [Shape.ofDataAt_eq_valid_iff] at valid
    exact described.unique valid ▸ shape.sound_record

/-- The record inside all others. -/
def innermost : ShapeRecord → ShapeRecord
  | mk _ _ (some element) _ => element.innermost
  | mk notNull isList none name => mk notNull isList none name

/-- The name in the record inside all lists, or the empty text if there is no name. -/
def leafName : ShapeRecord → String
  | mk _ true (some element) _ => element.leafName
  | mk _ _ _ name => name.getD ""

end ShapeRecord

namespace Shape

theorem innermost_record (shape : Shape) :
    ∃ notNull, shape.record.innermost = .mk notNull false none (some shape.leafName) := by
  induction shape with
  | leaf notNull name => exact ⟨notNull, rfl⟩
  | list _ _ inductionHypothesis => exact inductionHypothesis

theorem leafName_record (shape : Shape) : shape.record.leafName = shape.leafName := by
  induction shape with
  | leaf notNull name => rfl
  | list _ _ inductionHypothesis => exact inductionHypothesis

/-- A shape that is read has the record which the data describe.  It is sound at every level, and
its leaf has the name at the innermost level. -/
structure ReadFrom (level : Nat) (data : Data) (shape : Shape) : Prop where
  described : ShapeRecord.Describes level data shape.record
  sound : shape.record.Sound
  leafName : shape.record.leafName = shape.leafName
  innermost : ∃ notNull, shape.record.innermost = .mk notNull false none (some shape.leafName)

theorem readFrom_of_ofDataAt {level : Nat} {data : Data} {shape : Shape}
    (valid : ofDataAt level data = .valid shape) :
    shape.ReadFrom level data where
  described := (ofDataAt_eq_valid_iff level data shape).1 valid
  sound := shape.sound_record
  leafName := shape.leafName_record
  innermost := shape.innermost_record

end Shape

end SchemaDecl
