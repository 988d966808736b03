import Mathlib.Data.Set.Function
import SchemaDecl.Item.Data
import SchemaDecl.Proofs.Acceptance
import SchemaDecl.Proofs.Naming

/-!
# References and shapes

A shape is written back as the reference it stands for: a list as a list, a required level in a
wrapper.  References in which no wrapper stands directly inside another are normal.  Taking shapes
is a bijection between the normal proper references and the sound shapes, and writing back is its
inverse.  A sound shape is one whose four parts go together at every level, which is what the check
of shapes asks for.
-/

namespace SchemaDecl

/-! ## Normal references -/

namespace TypeRef

/-- Whether the outermost part of a reference is a wrapper for required values. -/
def isNonNull : TypeRef → Bool
  | nonNull _ => true
  | _ => false

/-- No wrapper for required values stands directly inside another. -/
def Normal : TypeRef → Prop
  | named _ => True
  | list element => element.Normal
  | nonNull inner => inner.isNonNull = false ∧ inner.Normal
  | stray _ => True

instance decidableNormal : (reference : TypeRef) → Decidable reference.Normal
  | named _ => inferInstanceAs (Decidable True)
  | list element => decidableNormal element
  | nonNull inner =>
      have := decidableNormal inner
      inferInstanceAs (Decidable (inner.isNonNull = false ∧ inner.Normal))
  | stray _ => inferInstanceAs (Decidable True)

/-- Put a reference into a wrapper for required values unless it is in one. -/
def required : TypeRef → TypeRef
  | nonNull inner => nonNull inner
  | reference => nonNull reference

/-- The reference with one wrapper in the place of several directly inside each other. -/
def normalized : TypeRef → TypeRef
  | named name => named name
  | list element => list element.normalized
  | nonNull inner => inner.normalized.required
  | stray part => stray part

theorem normal_required {reference : TypeRef} (normal : reference.Normal) :
    reference.required.Normal := by
  cases reference with
  | nonNull inner => exact normal
  | named name => exact ⟨rfl, normal⟩
  | list element => exact ⟨rfl, normal⟩
  | stray part => exact ⟨rfl, normal⟩

theorem normal_normalized (reference : TypeRef) : reference.normalized.Normal := by
  induction reference with
  | named name => trivial
  | list element inductionHypothesis => exact inductionHypothesis
  | nonNull inner inductionHypothesis => exact normal_required inductionHypothesis
  | stray part => trivial

theorem required_of_isNonNull_eq_false {reference : TypeRef}
    (bare : reference.isNonNull = false) :
    reference.required = nonNull reference := by
  cases reference with
  | nonNull inner => cases bare
  | named | list | stray => rfl

/-- Nothing is to be done to a normal reference. -/
theorem normalized_of_normal {reference : TypeRef} (normal : reference.Normal) :
    reference.normalized = reference := by
  induction reference with
  | named name => rfl
  | list element inductionHypothesis => rw [normalized, inductionHypothesis normal]
  | nonNull inner inductionHypothesis =>
      rw [normalized, inductionHypothesis normal.2, required_of_isNonNull_eq_false normal.1]
  | stray part => rfl

/-- Under a wrapper another one has no effect. -/
theorem shapeUnder_required (reference : TypeRef) (notNull : Bool) :
    reference.required.shapeUnder notNull = reference.shapeUnder true := by
  cases reference with
  | named | list | nonNull | stray => rfl

theorem shapeUnder_normalized (reference : TypeRef) (notNull : Bool) :
    reference.normalized.shapeUnder notNull = reference.shapeUnder notNull := by
  induction reference generalizing notNull with
  | named name => rfl
  | list element inductionHypothesis => rw [normalized, shapeUnder, inductionHypothesis, shapeUnder]
  | nonNull inner inductionHypothesis =>
      rw [normalized, shapeUnder_required, inductionHypothesis, shapeUnder]
  | stray part => rfl

/-- Several wrappers directly inside each other count as one. -/
theorem shape_normalized (reference : TypeRef) : reference.normalized.shape = reference.shape :=
  reference.shapeUnder_normalized false

end TypeRef

/-! ## Shapes written back -/

namespace Shape

/-- The reference that a shape is written back as. -/
def reference : Shape → TypeRef
  | leaf false name => .named name
  | leaf true name => .nonNull (.named name)
  | list false element => .list element.reference
  | list true element => .nonNull (.list element.reference)

theorem normal_reference (shape : Shape) : shape.reference.Normal := by
  induction shape with
  | leaf notNull name => cases notNull <;> simp [reference, TypeRef.Normal, TypeRef.isNonNull]
  | list notNull element inductionHypothesis =>
      cases notNull <;>
        simp [reference, TypeRef.Normal, TypeRef.isNonNull, inductionHypothesis]

/-- The shape of what is written is the shape that was written. -/
theorem shape_reference (shape : Shape) : shape.reference.shape = .ok shape := by
  induction shape with
  | leaf notNull name => cases notNull <;> rfl
  | list notNull element inductionHypothesis =>
      have inner : element.reference.shapeUnder false = .ok element := inductionHypothesis
      cases notNull <;> simp [reference, TypeRef.shape, TypeRef.shapeUnder, inner, Except.map]

/-- A shape that is required at the outermost level. -/
def demanded : Shape → Shape
  | leaf _ name => leaf true name
  | list _ element => list true element

theorem demanded_demanded (shape : Shape) : shape.demanded.demanded = shape.demanded := by
  cases shape <;> rfl

theorem reference_demanded (shape : Shape) :
    shape.demanded.reference = shape.reference.required := by
  rcases shape with ⟨_ | _, name⟩ | ⟨_ | _, element⟩ <;> rfl

end Shape

namespace TypeRef

/-- Under a wrapper the outermost level is required. -/
theorem shapeUnder_true (reference : TypeRef) :
    reference.shapeUnder true = (reference.shapeUnder false).map Shape.demanded := by
  induction reference with
  | named name => rfl
  | list element _ =>
      rw [shapeUnder, shapeUnder]
      cases element.shapeUnder false <;> rfl
  | nonNull inner inductionHypothesis =>
      rw [shapeUnder, shapeUnder, inductionHypothesis]
      cases inner.shapeUnder false with
      | error part => rfl
      | ok shape => exact congrArg Except.ok shape.demanded_demanded.symm
  | stray part => rfl

/-- What a shape is written back as is the reference it was taken from, once that is normal. -/
theorem reference_of_shape {reference : TypeRef} {shape : Shape}
    (given : reference.shape = .ok shape) :
    shape.reference = reference.normalized := by
  unfold TypeRef.shape at given
  induction reference generalizing shape with
  | named name =>
      cases given
      rfl
  | list element inductionHypothesis =>
      rw [shapeUnder] at given
      cases inner : element.shapeUnder false with
      | error part =>
          rw [inner] at given
          cases given
      | ok innerShape =>
          rw [inner] at given
          cases given
          rw [Shape.reference, normalized, inductionHypothesis inner]
  | nonNull inner inductionHypothesis =>
      rw [shapeUnder, shapeUnder_true] at given
      cases found : inner.shapeUnder false with
      | error part =>
          rw [found] at given
          cases given
      | ok innerShape =>
          rw [found] at given
          cases given
          rw [Shape.reference_demanded, normalized, inductionHypothesis found]
  | stray part => cases given

/-- A reference names the leaf of its shape and nothing else. -/
theorem names_of_shapeUnder {reference : TypeRef} {notNull : Bool} {shape : Shape}
    (given : reference.shapeUnder notNull = .ok shape) :
    reference.names = [shape.leafName] := by
  induction reference generalizing notNull shape with
  | named name =>
      cases given
      rfl
  | list element inductionHypothesis =>
      rw [shapeUnder] at given
      cases inner : element.shapeUnder false with
      | error part =>
          rw [inner] at given
          cases given
      | ok innerShape =>
          rw [inner] at given
          cases given
          have sameLeaf := inductionHypothesis inner
          exact sameLeaf
  | nonNull inner inductionHypothesis => exact inductionHypothesis given
  | stray part => cases given

end TypeRef

/-! ## Sound shapes -/

/-- A shape as a record of four parts, whether they go together or not. -/
inductive ShapeRecord where
  | mk (notNull isList : Bool) (element : Option ShapeRecord) (name : Option String)

namespace ShapeRecord

/-- At every level the shape is a list with an element and no name, or no list and then a leaf with
a name and no element. -/
inductive Sound : ShapeRecord → Prop
  | leaf (notNull : Bool) (name : String) : Sound (mk notNull false none (some name))
  | list (notNull : Bool) {element : ShapeRecord} :
      Sound element → Sound (mk notNull true (some element) none)

/-- Put the levels of a record together, from the innermost to the outermost. -/
def check : ShapeRecord → Checked Shape
  | mk notNull isList none name => Shape.ofParts notNull isList none name
  | mk notNull isList (some element) name =>
      element.check.andThen fun shape => Shape.ofParts notNull isList (some shape) name

end ShapeRecord

namespace Shape

/-- The parts of a shape. -/
def record : Shape → ShapeRecord
  | leaf notNull name => .mk notNull false none (some name)
  | list notNull element => .mk notNull true (some element.record) none

theorem sound_record (shape : Shape) : shape.record.Sound := by
  induction shape with
  | leaf notNull name => exact .leaf notNull name
  | list notNull element inductionHypothesis => exact .list notNull inductionHypothesis

theorem record_injective {left right : Shape} (same : left.record = right.record) :
    left = right := by
  induction left generalizing right with
  | leaf notNull name =>
      cases right with
      | leaf => simpa [record] using same
      | list => simp [record] at same
  | list notNull element inductionHypothesis =>
      cases right with
      | leaf => simp [record] at same
      | list otherNotNull other =>
          simp only [record, ShapeRecord.mk.injEq, Option.some_inj] at same
          rw [same.1, inductionHypothesis same.2.2.1]

end Shape

/-- The parts go together as a leaf or as a list. -/
theorem Shape.ofParts_eq_valid_iff (notNull isList : Bool) (element : Option Shape)
    (name : Option String) (shape : Shape) :
    ofParts notNull isList element name = .valid shape ↔
      isList = shape.isList ∧ notNull = shape.notNull ∧
        match shape with
        | leaf _ word => element = none ∧ name = some word
        | list _ inner => element = some inner ∧ name = none := by
  unfold ofParts
  cases isList <;> cases element <;> cases name <;> cases shape <;>
    simp [Checked.issue, Shape.isList, Shape.notNull]

namespace ShapeRecord

theorem Sound.exists_record {record : ShapeRecord} (sound : record.Sound) :
    ∃ shape : Shape, shape.record = record := by
  induction sound with
  | leaf notNull name => exact ⟨.leaf notNull name, rfl⟩
  | list notNull _ inductionHypothesis =>
      obtain ⟨element, rfl⟩ := inductionHypothesis
      exact ⟨.list notNull element, rfl⟩

/-- A record that passes the check is that of the shape which the check gives. -/
theorem record_of_check : ∀ (record : ShapeRecord) (shape : Shape),
    record.check = .valid shape → shape.record = record
  | mk notNull isList none name, shape, valid => by
      rw [check, Shape.ofParts_eq_valid_iff] at valid
      cases shape with
      | leaf otherNotNull word =>
          obtain ⟨rfl, rfl, -, rfl⟩ := valid
          rfl
      | list otherNotNull inner => cases valid.2.2.1
  | mk notNull isList (some element) name, shape, valid => by
      rw [check] at valid
      cases outcome : element.check with
      | invalid issues =>
          rw [outcome] at valid
          cases valid
      | valid inner =>
          rw [outcome, Checked.andThen_valid, Shape.ofParts_eq_valid_iff] at valid
          cases shape with
          | leaf otherNotNull word => cases valid.2.2.1
          | list otherNotNull other =>
              obtain ⟨rfl, rfl, same, rfl⟩ := valid
              rw [Option.some_inj] at same
              rw [Shape.record, ← same, record_of_check element inner outcome]
              rfl

/-- The records of shapes pass the check. -/
theorem check_record (shape : Shape) : shape.record.check = .valid shape := by
  induction shape with
  | leaf notNull name => rfl
  | list notNull element inductionHypothesis =>
      rw [Shape.record, check, inductionHypothesis, Checked.andThen_valid, Shape.ofParts,
        if_pos rfl]

/-- The check accepts exactly the sound records. -/
theorem sound_iff (record : ShapeRecord) : record.Sound ↔ ∃ shape, record.check = .valid shape := by
  constructor
  · intro sound
    obtain ⟨shape, rfl⟩ := sound.exists_record
    exact ⟨shape, check_record shape⟩
  · rintro ⟨shape, valid⟩
    exact record_of_check record shape valid ▸ shape.sound_record

end ShapeRecord

/-! ## The correspondence -/

namespace TypeRef

/-- The references that stand for exactly one shape, each in its only spelling. -/
def canonical : Set TypeRef :=
  {reference | reference.Proper ∧ reference.Normal}

theorem canonical_reference (shape : Shape) : shape.reference ∈ canonical :=
  ⟨(exists_shape_iff _).1 ⟨shape, shape.shape_reference⟩, shape.normal_reference⟩

/-- Taking shapes is a bijection from the canonical references to the sound records. -/
theorem bijOn_shape :
    Set.BijOn (fun reference => reference.shape.map Shape.record) canonical
      (Except.ok '' {record | record.Sound}) := by
  refine ⟨?_, ?_, ?_⟩
  · rintro reference ⟨proper, -⟩
    obtain ⟨shape, given⟩ := (exists_shape_iff reference).2 proper
    exact ⟨shape.record, shape.sound_record, by simp only [given, Except.map]⟩
  · rintro left ⟨leftProper, leftNormal⟩ right ⟨rightProper, rightNormal⟩ same
    obtain ⟨leftShape, leftGiven⟩ := (exists_shape_iff left).2 leftProper
    obtain ⟨rightShape, rightGiven⟩ := (exists_shape_iff right).2 rightProper
    simp only [leftGiven, rightGiven, Except.map, Except.ok.injEq] at same
    rw [← normalized_of_normal leftNormal, ← normalized_of_normal rightNormal,
      ← reference_of_shape leftGiven, ← reference_of_shape rightGiven,
      Shape.record_injective same]
  · rintro _ ⟨record, sound, rfl⟩
    obtain ⟨shape, rfl⟩ := ShapeRecord.Sound.exists_record sound
    exact ⟨shape.reference, canonical_reference shape,
      by simp only [shape.shape_reference, Except.map]⟩

/-- References and shapes correspond one to one.  A reference has a shape exactly if it is a chain
of wrappers around a name, and otherwise the part at its end is reported by its class.  The shape is
sound at every level, its leaf is the name in the reference, and it is written back as the reference
with every run of wrappers made one, which has no effect on the shape.  On references without such
runs taking shapes is a bijection onto the sound shapes, and writing back is its inverse. -/
theorem shape_corresponds :
    (∀ reference : TypeRef,
      ((∃ shape, reference.shape = .ok shape) ↔ reference.Proper) ∧
      (∀ part, reference.shape = .error part ↔ reference.EndsIn part) ∧
      reference.normalized.Normal ∧ reference.normalized.shape = reference.shape ∧
      ∀ shape, reference.shape = .ok shape →
        shape.record.Sound ∧ reference.names = [shape.leafName] ∧
          shape.reference = reference.normalized) ∧
    (∀ part, (DocumentFault.reference part).message =
      "Unexpected type reference node: " ++ part.className) ∧
    (∀ record : ShapeRecord, record.Sound ↔ ∃ shape, record.check = .valid shape) ∧
    Set.BijOn (fun reference => reference.shape.map Shape.record) canonical
      (Except.ok '' {record | record.Sound}) ∧
    (∀ shape : Shape, shape.reference ∈ canonical ∧ shape.reference.shape = .ok shape) ∧
    ∀ reference ∈ canonical, ∀ shape,
      reference.shape = .ok shape → shape.reference = reference := by
  refine ⟨?_, fun _ => rfl, ShapeRecord.sound_iff, bijOn_shape,
    fun shape => ⟨canonical_reference shape, shape.shape_reference⟩, ?_⟩
  · intro reference
    refine ⟨exists_shape_iff reference, shape_eq_error_iff reference, normal_normalized reference,
      shape_normalized reference, ?_⟩
    intro shape given
    exact ⟨shape.sound_record, names_of_shapeUnder given, reference_of_shape given⟩
  · rintro reference ⟨-, normal⟩ shape given
    rw [reference_of_shape given, normalized_of_normal normal]

/-- A list of required lists, required twice at one level. -/
def doubledReference : TypeRef :=
  .list (.nonNull (.nonNull (.list (.nonNull (.named "Node")))))

/-- The doubled wrapper counts once, and a list of something that is no type is reported. -/
theorem shape_corresponds_doubledReference :
    ∃ shape, doubledReference.shape = .ok shape ∧ shape.record.Sound ∧
      doubledReference.names = [shape.leafName] ∧
      shape.reference = .list (.nonNull (.list (.nonNull (.named "Node")))) ∧
      doubledReference ∉ canonical ∧ shape.reference ∈ canonical ∧
      (TypeRef.list (.stray (.node "name"))).shape = .error (.node "name") := by
  obtain ⟨each, -, -, -, inverse, -⟩ := shape_corresponds
  obtain ⟨-, -, -, -, written⟩ := each doubledReference
  have given : doubledReference.shape = .ok (.list false (.list true (.leaf true "Node"))) := rfl
  obtain ⟨sound, names, back⟩ := written _ given
  refine ⟨_, given, sound, names, back, ?_, (inverse _).1, ?_⟩
  · rintro ⟨-, normal⟩
    exact absurd normal (by decide)
  · exact ((each (.list (.stray (.node "name")))).2.1 _).2 (.list .stray)

end TypeRef

end SchemaDecl
