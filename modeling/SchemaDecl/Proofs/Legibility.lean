import SchemaDecl.Proofs.Paragraphs
import SchemaDecl.Proofs.Visible

/-!
# Declarations read back from their lines

A declaration is legible if it is called by a name, its members by visible texts, and
the types of its properties stay on one line.  Legible declarations are told from their lines.
-/

namespace SchemaDecl

open CodeText Joining Sdl Text

theorem Text.Visible.blank_not_mem {text : String} (visible : Visible text.toList) :
    .character ' ' ∉ (ofString text).points := by
  rw [character_mem_ofString]
  exact visible.not_mem rfl

theorem Text.Visible.filled {text : String} (visible : Visible text.toList) :
    (ofString text).Filled := by
  constructor
  · intro nothing
    exact visible.1 (List.map_eq_nil_iff.1 (congrArg points nothing))
  · exact oneLine_ofString (visible.not_mem rfl)

/-- The texts among the settings that are copied into the output have no line break in them. -/
structure Config.OneLine (config : Config) : Prop where
  namespaceName : ∀ name, config.namespaceName = some name → name.OneLine
  usings : ∀ name ∈ config.usings, name.OneLine
  indent : config.indent.OneLine
  enumSeparator : config.enumSeparator.OneLine
  accessors : config.accessors.OneLine
  listType : config.listType.OneLine
  scalars : ∀ entry ∈ config.scalars, entry.2.OneLine
  collectionType : config.collectionType.OneLine

attribute [ext] Property

/-- The type stays on one line and the name is visible. -/
structure Property.Legible (property : Property) : Prop where
  type : property.type.OneLine
  name : Visible property.name.toList

namespace Declaration

/-- The declaration can be read back from its lines. -/
inductive Legible : Declaration → Prop
  | enumType {name : String} {members : List String}
      (named : IsName name)
      (visible : ∀ member ∈ members, Visible member.toList) :
      Legible (.enumType name members)
  | interfaceType {name : String} {properties : List Property}
      (named : IsName name)
      (legible : ∀ property ∈ properties, property.Legible) :
      Legible (.interfaceType name properties)
  | classType {name : String} {bases : List String} {properties : List Property}
      (named : IsName name)
      (basesNamed : ∀ base ∈ bases, IsName base)
      (legible : ∀ property ∈ properties, property.Legible) :
      Legible (.classType name bases properties)

/-- The lines of a declaration. -/
def lines (config : Config) (declaration : Declaration) : List CodeText :=
  let closing : CodeText := "\x7d"
  declaration.header :: "\x7b" :: declaration.memberLines config ++ [closing]

theorem text_eq_intercalate_lines (config : Config) (declaration : Declaration) :
    declaration.text config = .intercalate "\n" (declaration.lines config) := rfl

/-! ## The header -/

/-- The word for the sort of a declaration. -/
def keyword : Declaration → String
  | enumType _ _ => "enum"
  | interfaceType _ _ => "interface"
  | classType _ _ _ => "class"

/-- What follows the keyword in the header. -/
def heading : Declaration → CodeText
  | enumType name _ => name
  | interfaceType name _ => name
  | classType name [] _ => name
  | classType name (base :: bases) _ => name ++ " : " ++ ", ".intercalate (base :: bases)

theorem header_eq (declaration : Declaration) :
    declaration.header = "public " ++ (declaration.keyword ++ (" " ++ declaration.heading)) := by
  have enumWords : ofString "public enum " = "public " ++ ("enum" ++ " ") := by decide
  have interfaceWords : ofString "public interface " = "public " ++ ("interface" ++ " ") := by
    decide
  have classWords : ofString "public class " = "public " ++ ("class" ++ " ") := by decide
  rcases declaration with _ | _ | ⟨_, _ | ⟨_, _⟩, _⟩ <;>
    simp only [header, keyword, heading, enumWords, interfaceWords, classWords, append_assoc]

theorem visible_keyword (declaration : Declaration) : Visible declaration.keyword.toList := by
  have all : ∀ keyword ∈ ["enum", "interface", "class"], Visible keyword.toList := by decide
  apply all
  cases declaration <;> simp [keyword]

/-- The keyword ends at the first blank after the modifier. -/
theorem header_inj {left right : Declaration} (same : left.header = right.header) :
    left.keyword = right.keyword ∧ left.heading = right.heading := by
  rw [header_eq, header_eq] at same
  obtain ⟨keywords, headings⟩ := append_cons_inj left.visible_keyword.blank_not_mem
    right.visible_keyword.blank_not_mem (congrArg points (append_left_cancel same))
  exact ⟨ofString_injective (CodeText.ext keywords), CodeText.ext headings⟩

theorem points_heading_classType_cons (name : CodeText) (base : String) (bases : List String)
    (properties : List Property) :
    (classType name (base :: bases) properties).heading.points = name.points ++
      .character ' ' :: ((ofString ": ").points ++
        (ofString (", ".intercalate (base :: bases))).points) := by
  have words : ofString " : " = " " ++ ": " := by decide
  simp only [heading, words, append_assoc]
  rfl

/-- Only a class with bases has a blank in what follows the keyword. -/
theorem blank_mem_heading (name : CodeText) (base : String) (bases : List String)
    (properties : List Property) :
    .character ' ' ∈ (classType name (base :: bases) properties).heading.points := by
  rw [points_heading_classType_cons]
  exact List.mem_append_right _ List.mem_cons_self

theorem intercalate_bases_inj {left right : List String}
    (leftNamed : ∀ base ∈ left, IsName base)
    (rightNamed : ∀ base ∈ right, IsName base)
    (leftSome : left ≠ [])
    (rightSome : right ≠ [])
    (same : ", ".intercalate left = ", ".intercalate right) :
    left = right := by
  have noComma {bases : List String} (named : ∀ base ∈ bases, IsName base) :
      ∀ letters ∈ bases.map String.toList, ',' ∉ letters :=
    List.forall_mem_map.2 fun base member => (named base member).not_mem rfl
  have joined := congrArg String.toList same
  rw [String.toList_intercalate, String.toList_intercalate] at joined
  have letters : left.map String.toList = right.map String.toList :=
    @intercalate_inj _ ',' [' '] _ _ (noComma leftNamed) (noComma rightNamed)
      (mt List.map_eq_nil_iff.1 leftSome) (mt List.map_eq_nil_iff.1 rightSome) joined
  exact (List.map_inj_right fun _ _ => String.toList_injective).1 letters

/-- The name of a class ends at the first blank, and the bases have commas between them. -/
theorem heading_classType_inj {left right : String} {leftBases rightBases : List String}
    {leftProperties rightProperties : List Property}
    (leftNamed : IsName left)
    (rightNamed : IsName right)
    (leftBasesNamed : ∀ base ∈ leftBases, IsName base)
    (rightBasesNamed : ∀ base ∈ rightBases, IsName base)
    (same : (classType left leftBases leftProperties).heading =
      (classType right rightBases rightProperties).heading) :
    left = right ∧ leftBases = rightBases := by
  have leftWord := leftNamed.visible.blank_not_mem
  have rightWord := rightNamed.visible.blank_not_mem
  cases leftBases with
  | nil =>
      cases rightBases with
      | nil => exact ⟨ofString_injective same, rfl⟩
      | cons base bases =>
          have inLeft := blank_mem_heading right base bases rightProperties
          rw [← same] at inLeft
          exact absurd inLeft leftWord
  | cons base bases =>
      cases rightBases with
      | nil =>
          have inRight := blank_mem_heading left base bases leftProperties
          rw [same] at inRight
          exact absurd inRight rightWord
      | cons other others =>
          have samePoints := congrArg points same
          rw [points_heading_classType_cons, points_heading_classType_cons] at samePoints
          obtain ⟨names, rests⟩ := append_cons_inj leftWord rightWord samePoints
          have joined := ofString_injective (CodeText.ext (List.append_cancel_left rests))
          refine ⟨ofString_injective (CodeText.ext names), ?_⟩
          exact intercalate_bases_inj leftBasesNamed rightBasesNamed (List.cons_ne_nil _ _)
            (List.cons_ne_nil _ _) joined

/-! ## The lines between the braces -/

/-- The name of a property follows the last blank before the accessors. -/
theorem propertyText_inj {config : Config} {left right : Property}
    (leftLegible : left.Legible)
    (rightLegible : right.Legible)
    (same : propertyText config left = propertyText config right) :
    left = right := by
  have beforeAccessors := append_right_cancel (append_right_cancel same)
  rw [CodeText.append_assoc, CodeText.append_assoc] at beforeAccessors
  obtain ⟨types, names⟩ := append_cons_inj_last leftLegible.name.blank_not_mem
    rightLegible.name.blank_not_mem (congrArg points beforeAccessors)
  exact Property.ext (CodeText.ext types) (ofString_injective (CodeText.ext names))

theorem map_propertyText_inj {config : Config} {prior : CodeText} {left right : List Property}
    (leftLegible : ∀ property ∈ left, property.Legible)
    (rightLegible : ∀ property ∈ right, property.Legible)
    (same : (left.map fun property => prior ++ propertyText config property) =
      right.map fun property => prior ++ propertyText config property) :
    left = right := by
  refine map_inj_on ?_ same
  intro first isLeft second isRight sameLine
  apply propertyText_inj (leftLegible first isLeft) (rightLegible second isRight)
  exact append_left_cancel sameLine

/-- Every line of an enumerant has the same text before and after its name. -/
theorem map_enumerantText_inj {prior after : CodeText} {left right : List String}
    (same : (left.map fun (member : String) => prior ++ member ++ after) =
      right.map fun (member : String) => prior ++ member ++ after) :
    left = right := by
  refine map_inj_on ?_ same
  intro first _ second _ sameLine
  apply ofString_injective
  exact append_left_cancel (append_right_cancel sameLine)

/-- A legible declaration is told from its lines. -/
theorem lines_inj {config : Config} {left right : Declaration}
    (leftLegible : left.Legible)
    (rightLegible : right.Legible)
    (same : left.lines config = right.lines config) :
    left = right := by
  obtain ⟨headers, rest⟩ := List.cons.inj (List.append_cancel_right same)
  have members := List.tail_eq_of_cons_eq rest
  obtain ⟨keywords, headings⟩ := header_inj headers
  cases leftLegible with
  | enumType leftNamed leftVisible =>
      cases rightLegible with
      | enumType rightNamed rightVisible =>
          rw [ofString_injective headings, map_enumerantText_inj members]
      | interfaceType => exact absurd keywords (by simp [keyword])
      | classType => exact absurd keywords (by simp [keyword])
  | interfaceType leftNamed leftLegible =>
      cases rightLegible with
      | interfaceType rightNamed rightLegible =>
          rw [ofString_injective headings, map_propertyText_inj leftLegible rightLegible members]
      | enumType => exact absurd keywords (by simp [keyword])
      | classType => exact absurd keywords (by simp [keyword])
  | classType leftNamed leftBases leftLegible =>
      cases rightLegible with
      | classType rightNamed rightBases rightLegible =>
          obtain ⟨names, bases⟩ :=
            heading_classType_inj leftNamed rightNamed leftBases rightBases headings
          rw [names, bases, map_propertyText_inj leftLegible rightLegible members]
      | enumType => exact absurd keywords (by simp [keyword])
      | interfaceType => exact absurd keywords (by simp [keyword])

/-! ## Lines that are written -/

theorem oneLine_intercalate_bases {bases : List String} (named : ∀ base ∈ bases, IsName base) :
    (ofString (", ".intercalate bases)).OneLine := by
  apply oneLine_ofString
  rw [String.toList_intercalate]
  intro member
  rcases mem_of_mem_intercalate member with inSeparator | ⟨letters, isBase, inBase⟩
  · exact absurd inSeparator (by decide)
  · obtain ⟨name, isName, rfl⟩ := List.mem_map.1 isBase
    exact (named name isName).not_mem rfl inBase

theorem Legible.filled_header {declaration : Declaration} (legible : declaration.Legible) :
    declaration.header.Filled := by
  cases legible with
  | enumType named _ => exact Filled.append (by decide) named.visible.filled.2
  | interfaceType named _ => exact Filled.append (by decide) named.visible.filled.2
  | @classType name bases properties named basesNamed _ =>
      have filled : ("public class " ++ name : CodeText).Filled :=
        Filled.append (by decide) named.visible.filled.2
      cases bases with
      | nil => exact filled
      | cons base others =>
          exact (filled.append (by decide)).append (oneLine_intercalate_bases basesNamed)

theorem filled_propertyText {config : Config} {property : Property}
    (legible : property.Legible)
    (oneLine : config.OneLine) :
    (propertyText config property).Filled := by
  have typed : (property.type ++ " " : CodeText).Filled := legible.type.append_filled (by decide)
  have named := typed.append legible.name.filled.2
  exact (named.append (by decide)).append oneLine.accessors

theorem Legible.filled_memberLines {config : Config} {declaration : Declaration}
    (legible : declaration.Legible)
    (oneLine : config.OneLine) :
    ∀ line ∈ declaration.memberLines config, line.Filled := by
  intro line member
  cases legible with
  | enumType named visible =>
      obtain ⟨enumerant, isMember, rfl⟩ := List.mem_map.1 member
      apply Filled.append _ oneLine.enumSeparator
      exact oneLine.indent.append_filled (visible enumerant isMember).filled
  | interfaceType named legible =>
      obtain ⟨property, isMember, rfl⟩ := List.mem_map.1 member
      exact oneLine.indent.append_filled (filled_propertyText (legible property isMember) oneLine)
  | classType named basesNamed legible =>
      obtain ⟨property, isMember, rfl⟩ := List.mem_map.1 member
      have modified : (config.indent ++ "public " : CodeText).OneLine :=
        oneLine.indent.append (by decide)
      exact modified.append_filled (filled_propertyText (legible property isMember) oneLine)

/-- The lines of a legible declaration are a paragraph. -/
theorem Legible.isParagraph {config : Config} {declaration : Declaration}
    (legible : declaration.Legible)
    (oneLine : config.OneLine) :
    IsParagraph (declaration.lines config) := by
  refine ⟨List.cons_ne_nil _ _, ?_⟩
  simp only [lines, List.forall_mem_append, List.forall_mem_cons]
  refine ⟨⟨legible.filled_header, by decide, legible.filled_memberLines oneLine⟩, by decide,
    List.forall_mem_nil _⟩

end Declaration

end SchemaDecl
