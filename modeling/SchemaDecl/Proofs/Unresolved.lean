import SchemaDecl.Proofs.Acceptance
import SchemaDecl.Proofs.FileText
import SchemaDecl.Proofs.Generation
import SchemaDecl.Proofs.Merge.Tags
import SchemaDecl.Unresolved

/-!
# Every type that is used is accounted for

The type of a property has a leaf name inside of its lists.  The name is mapped by the settings, or
it is reported as unresolved, or a declaration of the file has it.  An item that is left as an
extension has no declaration, but then another item of its name has one.
-/

namespace SchemaDecl

/-! ## First uses -/

/-- Elements that are kept stand in the same order in the whole list. -/
theorem idxOf_lt_of_idxOf_filter_lt {α : Type} [BEq α] [LawfulBEq α]
    (keep : α → Bool)
    {elements : List α} {first second : α}
    (firstKept : keep first = true)
    (secondKept : keep second = true)
    (before : (elements.filter keep).idxOf first < (elements.filter keep).idxOf second) :
    elements.idxOf first < elements.idxOf second := by
  induction elements with
  | nil => cases before
  | cons head rest inductionHypothesis =>
      by_cases kept : keep head = true
      · rw [List.filter_cons_of_pos kept, List.idxOf_cons, List.idxOf_cons] at before
        rw [List.idxOf_cons, List.idxOf_cons]
        cases isFirst : head == first <;> cases isSecond : head == second <;>
          simp only [isFirst, isSecond, cond_true, cond_false] at before ⊢
        · exact Nat.succ_lt_succ (inductionHypothesis (Nat.lt_of_succ_lt_succ before))
        all_goals omega
      · rw [List.filter_cons_of_neg kept] at before
        have isFirst : (head == first) = false :=
          beq_false_of_ne fun same => kept (same ▸ firstKept)
        have isSecond : (head == second) = false :=
          beq_false_of_ne fun same => kept (same ▸ secondKept)
        rw [List.idxOf_cons, List.idxOf_cons, isFirst, isSecond]
        exact Nat.succ_lt_succ (inductionHypothesis before)

/-- What is left without repetitions stands in the order of first occurrences. -/
theorem pairwise_idxOf_eraseDups {α : Type} [BEq α] [LawfulBEq α] (elements : List α) :
    elements.eraseDups.Pairwise fun first second =>
      elements.idxOf first < elements.idxOf second := by
  match elements with
  | [] => exact List.Pairwise.nil
  | head :: rest =>
      have different {element : α}
          (member : element ∈ (rest.filter fun other => !other == head).eraseDups) :
          (!element == head) = true :=
        (List.mem_filter.1 (List.mem_eraseDups.1 member)).2
      have apart {element : α} (kept : (!element == head) = true) : (head == element) = false := by
        rw [Bool.not_eq_true'] at kept
        exact beq_false_of_ne (ne_of_beq_false kept).symm
      rw [List.eraseDups_cons, List.pairwise_cons]
      constructor
      · intro element member
        rw [List.idxOf_cons, List.idxOf_cons, beq_self_eq_true, apart (different member)]
        exact Nat.succ_pos _
      · refine (pairwise_idxOf_eraseDups (rest.filter fun other => !other == head)).imp_of_mem ?_
        intro first second isFirst isSecond before
        have inRest := idxOf_lt_of_idxOf_filter_lt (fun other => !other == head)
          (different isFirst) (different isSecond) before
        rw [List.idxOf_cons, List.idxOf_cons, apart (different isFirst),
          apart (different isSecond)]
        exact Nat.succ_lt_succ inRest
termination_by elements.length
decreasing_by exact Nat.lt_succ_of_le (List.length_filter_le _ _)

/-! ## Mapped names -/

theorem lookup_filter_of_kept {α β : Type} [BEq α] [LawfulBEq α] {keep : α × β → Bool} {key : α}
    (kept : ∀ value, keep (key, value) = true)
    (entries : List (α × β)) :
    (entries.filter keep).lookup key = entries.lookup key := by
  induction entries with
  | nil => rfl
  | cons entry rest inductionHypothesis =>
      obtain ⟨other, value⟩ := entry
      by_cases found : key = other
      · subst found
        rw [List.filter_cons_of_pos (kept value), List.lookup_cons_self, List.lookup_cons_self]
      · have missed : (key == other) = false := beq_false_of_ne found
        by_cases passes : keep (other, value) = true
        · rw [List.filter_cons_of_pos passes, List.lookup_cons, List.lookup_cons, missed,
            inductionHypothesis]
        · rw [List.filter_cons_of_neg passes, List.lookup_cons, missed, inductionHypothesis]

namespace Config

theorem lookup_defaults (config : Config) (name : String) (entries : List (String × String)) :
    (entries.map fun entry => (CodeText.ofString entry.1, config.scalar entry.1)).lookup
        (.ofString name) =
      (entries.lookup name).map fun _ => config.scalar name := by
  induction entries with
  | nil => rfl
  | cons entry rest inductionHypothesis =>
      rw [List.map_cons, List.lookup_cons, List.lookup_cons, inductionHypothesis]
      by_cases found : name = entry.1
      · rw [found, beq_self_eq_true, beq_self_eq_true]
        rfl
      · have missed : (CodeText.ofString name == CodeText.ofString entry.1) = false :=
          beq_false_of_ne (mt CodeText.ofString_injective found)
        rw [beq_false_of_ne found, missed]

/-- The map of the leaf names has the type of each name that is configured or known. -/
theorem lookup_scalarMap (config : Config) (name : String) :
    config.scalarMap.lookup (.ofString name) = config.scalar? name := by
  rw [scalarMap, List.lookup_append, lookup_defaults]
  cases known : defaultScalars.lookup name with
  | some type =>
      have mapped : config.scalar? name = some (config.scalar name) := by
        unfold scalar scalar?
        rw [known]
        cases config.scalars.lookup (.ofString name) <;> rfl
      rw [mapped]
      rfl
  | none =>
      have kept : ∀ type : CodeText, (!isDefault (.ofString name)) = true := by
        intro type
        rw [isDefault, CodeText.toString?_ofString, Option.any_some, known]
        rfl
      rw [lookup_filter_of_kept kept, scalar?, known]
      cases config.scalars.lookup (.ofString name) <;> rfl

theorem isSome_scalar?_iff (config : Config) (name : String) :
    (config.scalar? name).isSome = true ↔ .ofString name ∈ config.scalarMap.map Prod.fst := by
  simp only [← lookup_scalarMap, List.lookup_isSome_iff, List.mem_map, beq_iff_eq,
    eq_comm (a := CodeText.ofString name)]

end Config

/-! ## The report -/

theorem Item.mem_leafNames_iff (item : Item) (name : String) :
    name ∈ item.leafNames ↔
      ∃ field ∈ item.fields, ∃ shape, field.shape = some shape ∧ shape.leafName = name := by
  simp only [leafNames, List.mem_filterMap, Option.map_eq_some_iff]

/-- Each unresolved name is listed once, at its first use. -/
theorem unresolved_eq_eraseDups (config : Config) (items : List Item) :
    unresolved config items =
      ((items.flatMap Item.leafNames).filter
        fun name => !isResolved config items name).eraseDups := by
  have skipped (names found : List String) :
      names.foldl
          (fun found name =>
            if isResolved config items name ∨ name ∈ found then found else found ++ [name])
          found =
        (names.filter fun name => !isResolved config items name).foldl Item.withTag found := by
    induction names generalizing found with
    | nil => rfl
    | cons name rest inductionHypothesis =>
        rw [List.foldl_cons, inductionHypothesis, List.filter_cons]
        cases resolved : isResolved config items name <;> simp [Item.withTag]
  rw [unresolved, skipped, Item.foldl_withTag_eq_append]
  simp

/-- The report lists names in the order in which they are first used. -/
theorem pairwise_unresolved (config : Config) (items : List Item) :
    (unresolved config items).Pairwise fun first second =>
      (items.flatMap Item.leafNames).idxOf first < (items.flatMap Item.leafNames).idxOf second := by
  rw [unresolved_eq_eraseDups]
  refine (pairwise_idxOf_eraseDups _).imp_of_mem ?_
  intro first second isFirst isSecond before
  have kept {name : String}
      (member : name ∈ ((items.flatMap Item.leafNames).filter
        fun name => !isResolved config items name).eraseDups) :
      (!isResolved config items name) = true :=
    (List.mem_filter.1 (List.mem_eraseDups.1 member)).2
  exact idxOf_lt_of_idxOf_filter_lt _ (kept isFirst) (kept isSecond) before

/-- The report lists the names that are used and neither mapped nor declared. -/
theorem mem_unresolved_iff (config : Config) (items : List Item) (name : String) :
    name ∈ unresolved config items ↔
      name ∈ items.flatMap Item.leafNames ∧ .ofString name ∉ config.scalarMap.map Prod.fst ∧
        ∀ item ∈ items, item.name ≠ name := by
  rw [unresolved_eq_eraseDups, List.mem_eraseDups, List.mem_filter, ← Config.isSome_scalar?_iff]
  simp [isResolved]

/-! ## Types in lists -/

/-- The type of lists of lists, down to the given depth, of a type. -/
def Config.listed (config : Config) : Nat → CodeText → CodeText
  | 0, type => type
  | depth + 1, type => config.listType ++ "<" ++ config.listed depth type ++ ">"

/-- A shape is rendered as the type of its leaf inside of its lists. -/
theorem Shape.typeName_eq_listed (config : Config) (shape : Shape) :
    shape.typeName config = config.listed shape.depth (config.scalar shape.leafName) := by
  induction shape with
  | leaf notNull name => rfl
  | list notNull element inductionHypothesis =>
      rw [typeName_list, inductionHypothesis]
      rfl

/-! ## Declarations of a file -/

namespace Declaration

/-- The name of what is declared. -/
def name : Declaration → CodeText
  | enumType name _ => name
  | interfaceType name _ => name
  | classType name _ _ => name

/-- The properties of an interface or a class. -/
def properties : Declaration → List Property
  | enumType _ _ => []
  | interfaceType _ properties => properties
  | classType _ _ properties => properties

/-- The declaration stands in the text of a file: after its preamble and the declarations before,
each with an empty line behind it. -/
def StandsIn (config : Config) (text : CodeText) (declaration : Declaration) : Prop :=
  ∃ (before : List Declaration) (after : CodeText),
    text = preamble config ++
      .join (before.map fun earlier => earlier.text config ++ "\n\n") ++
      declaration.text config ++ "\n" ++ after

/-- Each declaration of a file stands in its text. -/
theorem standsIn_fileText (config : Config) {declarations : List Declaration}
    {declaration : Declaration}
    (member : declaration ∈ declarations) :
    declaration.StandsIn config (fileText config declarations) := by
  obtain ⟨before, later, rfl⟩ := List.append_of_mem member
  obtain rfl | ⟨between, last, rfl⟩ := later.eq_nil_or_concat
  · refine ⟨before, .empty, ?_⟩
    rw [fileText_concat]
    ext1
    exact (List.append_nil _).symm
  · have lineBreaks : CodeText.ofString "\n\n" = "\n" ++ "\n" := by decide
    refine ⟨before, "\n" ++ .join (between.map fun later => later.text config ++ "\n\n") ++
      last.text config ++ "\n", ?_⟩
    rw [List.concat_eq_append, ← List.cons_append, ← List.append_assoc, fileText_concat,
      lineBreaks]
    ext1
    simp [CodeText.join]

end Declaration

namespace Item

/-- What is no extension has a declaration of its name. -/
theorem exists_declaration? {item : Item} (kind : item.kind ≠ .extension) (config : Config) :
    ∃ declaration, item.declaration? config = some declaration ∧
      declaration.name = item.name := by
  unfold declaration?
  cases same : item.kind with
  | enum => exact ⟨_, rfl, rfl⟩
  | interface => exact ⟨_, rfl, rfl⟩
  | object => exact ⟨_, rfl, rfl⟩
  | extension => exact absurd same kind

/-- An interface or an object is declared with its properties. -/
theorem properties_of_declaration? {item : Item} {config : Config} {declaration : Declaration}
    (kind : item.kind = .interface ∨ item.kind = .object)
    (declared : item.declaration? config = some declaration) :
    declaration.properties = item.properties config := by
  unfold declaration? at declared
  rcases kind with same | same <;> rw [same] at declared <;> cases declared <;> rfl

end Item

/-- The name of a merged item is the name of one that is no extension. -/
theorem Merge.exists_definition {items : List Item} {merged : Item}
    (member : merged ∈ (merge items).value) :
    ∃ definition ∈ (merge items).value,
      definition.name = merged.name ∧ definition.kind ≠ .extension := by
  have inNames := List.mem_map_of_mem (f := Item.name) member
  rw [names_merge] at inNames
  obtain ⟨item, inItems, sameName⟩ := List.mem_map.1 inNames
  obtain ⟨base, found⟩ := exists_base? inItems
  rw [← findIdx?_defines_merge, sameName] at found
  obtain ⟨definition, atBase⟩ := exists_of_findIdx? found
  exact ⟨definition, List.mem_of_getElem? atBase,
    (Item.defines_iff _ _).1 (holds_of_findIdx? found atBase)⟩

/-! ## Leaf names of properties -/

/-- Where the type that stands for a leaf name comes from. -/
inductive LeafOrigin (config : Config) (items : List Item) (text : CodeText) (name : String) :
    CodeText → Prop
  /-- The settings map the name. -/
  | mapped {type : CodeText} (entry : config.scalarMap.lookup (.ofString name) = some type) :
      LeafOrigin config items text name type
  /-- The name is reported. -/
  | reported (member : name ∈ unresolved config items) :
      LeafOrigin config items text name name
  /-- An item with the name is declared in the text. -/
  | declared {declaration : Declaration}
      (member : declaration ∈ Rendering.itemDeclarations config items)
      (named : declaration.name = name)
      (stands : declaration.StandsIn config text) :
      LeafOrigin config items text name name

/-- The property is what a field becomes, and the leaf name of the field is accounted for. -/
def Property.Accounted (config : Config) (items : List Item) (text : CodeText) (field : Field)
    (property : Property) : Prop :=
  property.name = Member.property field.name ∧
    ∃ shape leafType, field.shape = some shape ∧
      property.type = config.listed shape.depth leafType ∧
      LeafOrigin config items text shape.leafName leafType

/-- A name that is used has an origin if all items have definitions in the text. -/
theorem leafOrigin_of_used {config : Config} {items : List Item} {text : CodeText} {name : String}
    (used : name ∈ items.flatMap Item.leafNames)
    (defined : ∀ item ∈ items, ∃ definition ∈ items,
      definition.name = item.name ∧ definition.kind ≠ .extension)
    (present : ∀ declaration ∈ Rendering.itemDeclarations config items,
      declaration.StandsIn config text) :
    LeafOrigin config items text name (config.scalar name) := by
  unfold Config.scalar
  cases mapped : config.scalar? name with
  | some type =>
      rw [← config.lookup_scalarMap] at mapped
      exact .mapped mapped
  | none =>
      rw [Option.getD_none]
      by_cases known : ∃ item ∈ items, item.name = name
      · obtain ⟨item, member, rfl⟩ := known
        obtain ⟨definition, inItems, sameName, kind⟩ := defined item member
        obtain ⟨declaration, declared, named⟩ := definition.exists_declaration? kind config
        have inFile : declaration ∈ Rendering.itemDeclarations config items :=
          List.mem_filterMap.2 ⟨definition, inItems, declared⟩
        exact .declared inFile (sameName ▸ named) (present declaration inFile)
      · refine .reported ((mem_unresolved_iff config items name).2 ⟨used, ?_, ?_⟩)
        · rw [← Config.isSome_scalar?_iff, mapped]
          exact Bool.false_ne_true
        · intro item member sameName
          exact known ⟨item, member, sameName⟩

/-- The properties of an item are accounted for, field by field, if the leaf names in use are. -/
theorem Item.forall₂_properties {config : Config} {items : List Item} {text : CodeText}
    {item : Item}
    (member : item ∈ items)
    (origin : ∀ name ∈ items.flatMap Item.leafNames,
      LeafOrigin config items text name (config.scalar name)) :
    List.Forall₂ (Property.Accounted config items text)
      (item.fields.filter fun field => field.shape.isSome) (item.properties config) := by
  have leaves : ∀ field ∈ item.fields, ∀ shape, field.shape = some shape →
      LeafOrigin config items text shape.leafName (config.scalar shape.leafName) := by
    intro field inItem shape shaped
    exact origin shape.leafName (List.mem_flatMap.2
      ⟨item, member, (item.mem_leafNames_iff _).2 ⟨field, inItem, shape, shaped, rfl⟩⟩)
  unfold properties
  generalize item.fields = fields at leaves
  induction fields with
  | nil => exact .nil
  | cons field rest inductionHypothesis =>
      rw [List.forall_mem_cons] at leaves
      have later := inductionHypothesis leaves.2
      cases shaped : field.shape with
      | none =>
          rw [List.filter_cons_of_neg (by simp [shaped]),
            List.filterMap_cons_none (by simp [shaped])]
          exact later
      | some shape =>
          rw [List.filter_cons_of_pos (by simp [shaped]),
            List.filterMap_cons_some (by rw [shaped, Option.map_some])]
          refine .cons ⟨rfl, shape, _, shaped, shape.typeName_eq_listed config, ?_⟩ later
          exact leaves.1 shape shaped

/-- The declarations of the items stand in the text that is rendered. -/
theorem standsIn_of_render {config : Config} {items : List Item} {text : CodeText}
    (rendered : (render config items).run.value = .ok text) :
    ∀ declaration ∈ Rendering.itemDeclarations config items, declaration.StandsIn config text := by
  intro declaration member
  rw [value_render, Rendering.value_declarations] at rendered
  cases exposed : Rendering.aggregatorOf config (Rendering.entities config items) with
  | error fault =>
      rw [exposed] at rendered
      cases rendered
  | ok aggregator =>
      rw [exposed] at rendered
      cases rendered
      exact Declaration.standsIn_fileText config (List.mem_append_left aggregator member)

/-- The report on the type model of a document is complete for the text that is generated.  It lists
each name that is used and neither mapped nor an item's once, in the order of first use.  Every
interface and every object of the model is declared in the text with a property for each field that
has a shape, and the leaf name of the field is mapped, reported or declared in the text. -/
theorem generate_accounts_for_leafNames {document : Document} {items : List Item}
    (config : Config)
    (named : document.Named)
    (collected : (collect (some document)).run.value = .ok items) :
    ∃ model text,
      (typeModel (some document)).run.value = .ok model ∧
      (generate config document).run.value = .ok text ∧
      (unresolved config model).Nodup ∧
      ((unresolved config model).Pairwise fun first second =>
        (model.flatMap Item.leafNames).idxOf first < (model.flatMap Item.leafNames).idxOf second) ∧
      (∀ name, name ∈ unresolved config model ↔
        (∃ item ∈ model, ∃ field ∈ item.fields, ∃ shape,
          field.shape = some shape ∧ shape.leafName = name) ∧
        .ofString name ∉ config.scalarMap.map Prod.fst ∧ ∀ item ∈ model, item.name ≠ name) ∧
      ∀ item ∈ model, item.kind = .interface ∨ item.kind = .object →
        ∃ declaration ∈ Rendering.itemDeclarations config model,
          item.declaration? config = some declaration ∧ declaration.StandsIn config text ∧
          List.Forall₂ (Property.Accounted config model text)
            (item.fields.filter fun field => field.shape.isSome) declaration.properties := by
  obtain ⟨text, generated, rendered⟩ := exists_value_generate named collected config
  have modelled : (typeModel (some document)).run.value = .ok (merge items).value := by
    rw [value_typeModel, collected]
    rfl
  have ordered := pairwise_unresolved config (merge items).value
  have distinct : (unresolved config (merge items).value).Nodup :=
    ordered.imp fun before same => absurd (same ▸ before) (Nat.lt_irrefl _)
  have present := standsIn_of_render rendered
  have origin : ∀ name ∈ (merge items).value.flatMap Item.leafNames,
      LeafOrigin config (merge items).value text name (config.scalar name) :=
    fun name used =>
      leafOrigin_of_used used (fun _ member => Merge.exists_definition member) present
  refine ⟨_, text, modelled, generated, distinct, ordered, ?_, ?_⟩
  · intro name
    rw [mem_unresolved_iff, List.mem_flatMap]
    simp only [Item.mem_leafNames_iff]
  · intro item member kind
    have concrete : item.kind ≠ .extension := by
      rcases kind with same | same <;> rw [same] <;> decide
    obtain ⟨declaration, declared, _⟩ := item.exists_declaration? concrete config
    have inFile : declaration ∈ Rendering.itemDeclarations config (merge items).value :=
      List.mem_filterMap.2 ⟨item, member, declared⟩
    refine ⟨declaration, inFile, declared, present declaration inFile, ?_⟩
    rw [Item.properties_of_declaration? kind declared]
    exact Item.forall₂_properties member origin

/-- A type that is extended before it is defined and used by its own extension, an extension that
nothing introduces, a mapped name, and names that nothing has. -/
def parcelDocument : Document where
  definitions :=
    [.object .extension
       { name := "Parcel", fields := [{ name := "inner", type := .list (.named "Parcel") }] },
     .interface .definition
       { name := "Tracked",
         fields := [{ name := "route", type := .list (.list (.named "Stop")) }] },
     .object .definition
       { name := "Parcel", interfaces := ["Tracked"],
         fields :=
           [{ name := "weight", type := .nonNull (.named "Gram") },
            { name := "sent", type := .named "Instant" },
            { name := "note", type := .named "String" }] },
     .enum .extension { name := "Stop", values := [{ name := "DEPOT" }] }]

/-- The settings that map one name of `parcelDocument`. -/
def parcelConfig : Config where
  scalars := [("Instant", "DateTimeOffset")]

/-- Only the weight has an unresolved type.  Inside of the lists of the route is the class that the
extension without a definition becomes. -/
theorem generate_parcelDocument_accounts_for_leafNames :
    parcelDocument.Named ∧ ∃ model text,
      (typeModel (some parcelDocument)).run.value = .ok model ∧
      (generate parcelConfig parcelDocument).run.value = .ok text ∧
      unresolved parcelConfig model = ["Gram"] ∧
      (Declaration.interfaceType "Tracked" [⟨"List<List<Stop>>", "Route"⟩]).StandsIn
        parcelConfig text ∧
      ∃ declaration : Declaration,
        declaration.name = "Stop" ∧ declaration.StandsIn parcelConfig text := by
  have named : parcelDocument.Named := by decide
  have collected : (collect (some parcelDocument)).run.value =
      .ok (parcelDocument.definitions.filterMap Definition.given?) := rfl
  obtain ⟨model, text, modelled, generated, _, _, _, accounted⟩ :=
    generate_accounts_for_leafNames parcelConfig named collected
  have final : (typeModel (some parcelDocument)).run.value = .ok
      (merge (parcelDocument.definitions.filterMap Definition.given?)).value := rfl
  rw [final, Except.ok.injEq] at modelled
  subst modelled
  have reported : unresolved parcelConfig
      (merge (parcelDocument.definitions.filterMap Definition.given?)).value = ["Gram"] := by decide
  have tracked : Item.mk "Tracked" .interface
      [⟨"route", some (.list false (.list false (.leaf false "Stop")))⟩] [] [] ∈
        (merge (parcelDocument.definitions.filterMap Definition.given?)).value := by decide
  obtain ⟨declaration, _, declared, stands, properties⟩ := accounted _ tracked (Or.inl rfl)
  cases declared
  obtain _ | ⟨⟨_, shape, leafType, ⟨⟩, _, origin⟩, _⟩ := properties
  refine ⟨named, _, text, final, generated, reported, stands, ?_⟩
  cases origin with
  | mapped entry =>
      have unmapped : parcelConfig.scalarMap.lookup (.ofString "Stop") = none := by decide
      exact absurd (unmapped.symm.trans entry) (Option.some_ne_none _).symm
  | reported member =>
      have unreported : "Stop" ∉ ["Gram"] := by decide
      exact absurd (reported ▸ member) unreported
  | declared member called present => exact ⟨_, called, present⟩

end SchemaDecl
