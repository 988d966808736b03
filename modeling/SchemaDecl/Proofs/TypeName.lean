import SchemaDecl.Proofs.Readback
import SchemaDecl.Proofs.Reduction
import SchemaDecl.Proofs.TypeReference
import SchemaDecl.Proofs.Unresolved

/-!
# Names of types

A reference is written as the type of its leaf, inside of the list type once for every list on the
way to the leaf.  The settings and the defaults say what the type of a leaf is, and which values are
required makes no difference.
-/

namespace SchemaDecl

/-! ## Lists of references -/

namespace TypeRef

/-- The number of lists in a reference. -/
def listCount : TypeRef → Nat
  | named _ => 0
  | list element => element.listCount + 1
  | nonNull inner => inner.listCount
  | stray _ => 0

theorem depth_of_shapeUnder {reference : TypeRef} {notNull : Bool} {shape : Shape}
    (given : reference.shapeUnder notNull = .ok shape) :
    shape.depth = reference.listCount := by
  induction reference generalizing notNull shape with
  | named name =>
      cases given
      rfl
  | list element inductionHypothesis =>
      rw [shapeUnder] at given
      cases inner : element.shapeUnder false with
      | error part =>
          rw [inner] at given
          cases given
      | ok innerShape =>
          rw [inner] at given
          cases given
          rw [Shape.depth_list, inductionHypothesis inner, listCount]
  | nonNull inner inductionHypothesis => exact inductionHypothesis given
  | stray part => cases given

/-- A reference ends where it ends without its wrappers for required values. -/
theorem shapeUnder_nullable_of_error {reference : TypeRef} {notNull : Bool} {part : Stray}
    (failed : reference.shapeUnder notNull = .error part) :
    reference.nullable.shapeUnder false = .error part := by
  induction reference generalizing notNull with
  | named name => cases failed
  | list element inductionHypothesis =>
      rw [shapeUnder] at failed
      cases inner : element.shapeUnder false with
      | error other =>
          rw [inner] at failed
          cases failed
          rw [nullable, shapeUnder, inductionHypothesis inner]
          rfl
      | ok shape =>
          rw [inner] at failed
          cases failed
  | nonNull inner inductionHypothesis => exact inductionHypothesis failed
  | stray other => exact failed

/-- The name of the type of a reference, or what stands at its end instead of a name. -/
def typeName (config : Config) (reference : TypeRef) : Except Stray CodeText :=
  reference.shape.map (Shape.typeName config)

/-- Wrappers for required values leave the name of the type as it is. -/
theorem typeName_nullable (config : Config) (reference : TypeRef) :
    reference.nullable.typeName config = reference.typeName config := by
  unfold typeName shape
  cases resolved : reference.shapeUnder false with
  | error part => rw [shapeUnder_nullable_of_error resolved]
  | ok shape =>
      rw [shapeUnder_nullable resolved]
      exact congrArg Except.ok (shape.typeName_nullable config)

end TypeRef

/-! ## Types of leaves -/

namespace Config

/-- The type that stands for a leaf name: what the settings have for it, else what the defaults
have, else the name itself. -/
inductive LeafType (config : Config) (name : String) : CodeText → Prop
  | configured {type : CodeText} (entry : config.scalars.lookup (.ofString name) = some type) :
      LeafType config name type
  | default {type : String} (unset : ∀ entry ∈ config.scalars, entry.1 ≠ .ofString name)
      (entry : (name, type) ∈ defaultScalars) :
      LeafType config name type
  | itself (unset : ∀ entry ∈ config.scalars, entry.1 ≠ .ofString name)
      (unknown : ∀ entry ∈ defaultScalars, entry.1 ≠ name) :
      LeafType config name name

theorem lookup_eq_none_of_unset {config : Config} {name : String}
    (unset : ∀ entry ∈ config.scalars, entry.1 ≠ .ofString name) :
    config.scalars.lookup (.ofString name) = none :=
  List.lookup_eq_none_iff.2 fun entry member => bne_iff_ne.2 (unset entry member).symm

/-- No name has two defaults. -/
theorem lookup_defaultScalars :
    ∀ entry ∈ defaultScalars, defaultScalars.lookup entry.1 = some entry.2 := by
  decide

theorem scalar?_of_default {config : Config} {name type : String}
    (unset : ∀ entry ∈ config.scalars, entry.1 ≠ .ofString name)
    (entry : (name, type) ∈ defaultScalars) :
    config.scalar? name = some (.ofString type) := by
  rw [scalar?, lookup_eq_none_of_unset unset, lookup_defaultScalars _ entry]
  rfl

theorem LeafType.eq_scalar {config : Config} {name : String} {type : CodeText}
    (leafType : config.LeafType name type) :
    type = config.scalar name := by
  unfold scalar
  cases leafType with
  | configured entry => rw [scalar?, entry, Option.some_or, Option.getD_some]
  | default unset entry => rw [scalar?_of_default unset entry, Option.getD_some]
  | itself unset unknown =>
      have missing : defaultScalars.lookup name = none :=
        List.lookup_eq_none_iff.2 fun entry member => bne_iff_ne.2 (unknown entry member).symm
      rw [scalar?, lookup_eq_none_of_unset unset, missing]
      rfl

theorem leafType_scalar (config : Config) (name : String) :
    config.LeafType name (config.scalar name) := by
  unfold scalar scalar?
  cases configured : config.scalars.lookup (.ofString name) with
  | some type => exact .configured configured
  | none =>
      have unset : ∀ entry ∈ config.scalars, entry.1 ≠ .ofString name := fun entry member =>
        (bne_iff_ne.1 (List.lookup_eq_none_iff.1 configured entry member)).symm
      cases known : defaultScalars.lookup name with
      | some type => exact .default unset (mem_of_lookup_eq_some known)
      | none =>
          refine .itself unset fun entry member => ?_
          exact (bne_iff_ne.1 (List.lookup_eq_none_iff.1 known entry member)).symm

/-- The list type with an opening bracket stands before the type as often as there are lists, and as
many closing brackets stand behind it. -/
theorem listed_eq (config : Config) (depth : Nat) (type : CodeText) :
    config.listed depth type =
      .join (.replicate depth (config.listType ++ "<")) ++ type ++ .join (.replicate depth ">") := by
  induction depth with
  | zero =>
      ext1
      simp [listed, CodeText.join]
  | succ depth inductionHypothesis =>
      rw [listed, inductionHypothesis, List.replicate_succ, List.replicate_succ']
      ext1
      simp [CodeText.join]

end Config

/-- The type of a reference is named by the type of its leaf, inside of the list type as often as
there are lists in the reference.  The type of a leaf is the one in the settings, else the default
one, else the leaf itself, and the defaults that the settings leave alone keep their types.  So
references that differ only in what is required have the same names, if they have any. -/
theorem typeName_wraps_leafType (config : Config) :
    (∀ (reference : TypeRef) (shape : Shape), reference.shape = .ok shape →
      reference.names = [shape.leafName] ∧
      ∃ leaf, config.LeafType shape.leafName leaf ∧
        reference.typeName config =
          .ok (.join (.replicate reference.listCount (config.listType ++ "<")) ++ leaf ++
            .join (.replicate reference.listCount ">"))) ∧
    (∀ (name : String) (type : CodeText), config.LeafType name type ↔
      type = (config.scalarMap.lookup (.ofString name)).getD name) ∧
    (∀ entry ∈ Config.defaultScalars,
      (∀ configured ∈ config.scalars, configured.1 ≠ .ofString entry.1) →
      config.scalarMap.lookup (.ofString entry.1) = some (.ofString entry.2)) ∧
    ∀ left right : TypeRef, left.nullable = right.nullable →
      left.typeName config = right.typeName config := by
  refine ⟨?_, ?_, ?_, ?_⟩
  · intro reference shape given
    refine ⟨TypeRef.names_of_shapeUnder given, _, config.leafType_scalar shape.leafName, ?_⟩
    have depth : shape.depth = reference.listCount := TypeRef.depth_of_shapeUnder given
    rw [TypeRef.typeName, given, ← Config.listed_eq, ← depth, ← Shape.typeName_eq_listed]
    rfl
  · intro name type
    rw [config.lookup_scalarMap]
    constructor
    · exact fun leafType => leafType.eq_scalar
    · rintro rfl
      exact config.leafType_scalar name
  · intro entry isDefault unset
    rw [config.lookup_scalarMap, Config.scalar?_of_default unset isDefault]
  · intro left right same
    rw [← left.typeName_nullable, same, right.typeName_nullable]

/-- Settings with another list type, and with types for a default name and for a name that has no
default. -/
def crateConfig : Config where
  listType := "IList"
  scalars := [("Float", "double"), ("Weight", "Kilogram")]

/-- A value with lists at three levels, some parts of which are required. -/
def strictReference : TypeRef :=
  .nonNull (.list (.list (.nonNull (.list (.nonNull (.named "Weight"))))))

/-- The same, but other parts are required. -/
def lenientReference : TypeRef :=
  .list (.nonNull (.list (.list (.named "Weight"))))

/-- The name of the type of both references; a default that is replaced, one that is kept, and a
name that stands for itself. -/
theorem typeName_crateConfig_wraps_leafType :
    strictReference.shape =
        .ok (.list true (.list false (.list true (.leaf true "Weight")))) ∧
      strictReference.typeName crateConfig = .ok "IList<IList<IList<Kilogram>>>" ∧
      lenientReference.nullable = strictReference.nullable ∧
      lenientReference.typeName crateConfig = strictReference.typeName crateConfig ∧
      crateConfig.LeafType "Float" "double" ∧
      crateConfig.scalarMap.lookup (.ofString "Date") = some (.ofString "DateTime") ∧
      crateConfig.LeafType "Crate" "Crate" := by
  obtain ⟨wrapped, leaves, defaults, lenient⟩ := typeName_wraps_leafType crateConfig
  have given : strictReference.shape =
      .ok (.list true (.list false (.list true (.leaf true "Weight")))) := rfl
  have same : lenientReference.nullable = strictReference.nullable := by decide
  obtain ⟨-, leaf, leafType, named⟩ := wrapped _ _ given
  rw [leaves] at leafType
  subst leafType
  refine ⟨given, named.trans (by decide), same, lenient _ _ same, (leaves _ _).2 (by decide), ?_,
    (leaves _ _).2 (by decide)⟩
  exact defaults ("Date", "DateTime") (by decide) (by decide)

end SchemaDecl
