import SchemaDecl.Item

/-!
# Growth of items

Appending missing fields keeps the fields there are, takes up every name and invents no field.
Appending one list after another is appending the joined list, so an item's fields depend only on
the order in which fields arrive.  Tags grow in the same way.  `Item.Grows` relates an item to what
it becomes by taking over fields, interfaces and tags; `Item.Covers` says that one item contains
what another one has.
-/

namespace SchemaDecl

namespace Field

/-- A name is present when a field has it. -/
theorem present_iff (fields : List Field) (name : String) :
    present fields name = true ↔ ∃ field ∈ fields, field.name = name := by
  simp [present]

theorem present_of_mem {fields : List Field} {field : Field} (member : field ∈ fields) :
    present fields field.name = true :=
  (present_iff fields field.name).2 ⟨field, member, rfl⟩

@[simp] theorem present_nil (name : String) : present [] name = false := rfl

theorem present_cons (field : Field) (fields : List Field) (name : String) :
    present (field :: fields) name = (field.name == name || present fields name) := by
  simp [present]

/-- Two lists are appended one after the other like the joined list. -/
theorem appendMissing_append (fields first second : List Field) :
    appendMissing fields (first ++ second) =
      appendMissing (appendMissing fields first) second := by
  induction first generalizing fields with
  | nil => simp
  | cons field rest inductionHypothesis =>
      rw [List.cons_append, appendMissing_cons, appendMissing_cons, inductionHypothesis]

/-- The fields there are remain in front. -/
theorem prefix_appendMissing (fields additions : List Field) :
    fields <+: appendMissing fields additions :=
  List.prefix_append fields (missing fields additions)

/-- Appending adds the names of the appended list and no others. -/
theorem present_appendMissing (fields additions : List Field) (name : String) :
    present (appendMissing fields additions) name =
      (present fields name || present additions name) := by
  induction additions generalizing fields with
  | nil => simp
  | cons field rest inductionHypothesis =>
      rw [appendMissing_cons, inductionHypothesis, present_cons]
      by_cases known : present fields field.name = true
      · by_cases same : field.name = name
        · subst same
          simp [known]
        · simp [known, beq_false_of_ne same]
      · simp [known, present_cons, Bool.or_assoc]

/-- Nothing is appended when all names are present. -/
theorem appendMissing_eq_self {fields additions : List Field}
    (present : ∀ field ∈ additions, Field.present fields field.name = true) :
    appendMissing fields additions = fields := by
  induction additions with
  | nil => exact appendMissing_nil fields
  | cons field rest inductionHypothesis =>
      rw [List.forall_mem_cons] at present
      rw [appendMissing_cons, if_pos present.1, inductionHypothesis present.2]

/-- Every field comes from one of the two lists. -/
theorem mem_of_mem_appendMissing {fields additions : List Field} {field : Field}
    (member : field ∈ appendMissing fields additions) :
    field ∈ fields ∨ field ∈ additions := by
  induction additions generalizing fields with
  | nil =>
      rw [appendMissing_nil] at member
      exact Or.inl member
  | cons head rest inductionHypothesis =>
      rw [appendMissing_cons] at member
      rcases inductionHypothesis member with old | later
      · split at old
        · exact Or.inl old
        · rcases List.mem_append.1 old with earlier | new
          · exact Or.inl earlier
          · exact Or.inr (List.mem_cons.2 (Or.inl (List.mem_singleton.1 new)))
      · exact Or.inr (List.mem_cons_of_mem head later)

end Field

namespace Item

theorem mem_withTag (tags : List String) (added tag : String) :
    tag ∈ withTag tags added ↔ tag ∈ tags ∨ tag = added := by
  unfold withTag
  split
  · constructor
    · exact Or.inl
    · rintro (old | equal)
      · exact old
      · exact equal ▸ ‹added ∈ tags›
  · simp

/-- Adding tags one by one adds exactly these tags. -/
theorem mem_foldl_withTag (tags additions : List String) (tag : String) :
    tag ∈ additions.foldl withTag tags ↔ tag ∈ tags ∨ tag ∈ additions := by
  induction additions generalizing tags with
  | nil => simp
  | cons added rest inductionHypothesis =>
      rw [List.foldl_cons, inductionHypothesis, mem_withTag, List.mem_cons, or_assoc]

theorem prefix_withTag (tags : List String) (added : String) : tags <+: withTag tags added := by
  unfold withTag
  split
  · exact List.prefix_rfl
  · exact List.prefix_append tags [added]

/-- The tags there are remain in front. -/
theorem prefix_foldl_withTag (tags additions : List String) :
    tags <+: additions.foldl withTag tags := by
  induction additions generalizing tags with
  | nil => exact List.prefix_rfl
  | cons added rest inductionHypothesis =>
      exact (prefix_withTag tags added).trans (inductionHypothesis (withTag tags added))

/-- Nothing is added when all tags are there. -/
theorem foldl_withTag_eq_self {tags additions : List String}
    (known : ∀ tag ∈ additions, tag ∈ tags) :
    additions.foldl withTag tags = tags := by
  induction additions with
  | nil => rfl
  | cons added rest inductionHypothesis =>
      rw [List.forall_mem_cons] at known
      rw [List.foldl_cons, withTag, if_pos known.1, inductionHypothesis known.2]

@[simp] theorem name_absorb (base extension : Item) : (base.absorb extension).name = base.name :=
  rfl

@[simp] theorem kind_absorb (base extension : Item) : (base.absorb extension).kind = base.kind :=
  rfl

theorem appendMissing_append (item : Item) (first second : List Field) :
    item.appendMissing (first ++ second) = (item.appendMissing first).appendMissing second := by
  simp only [appendMissing, Field.appendMissing_append]

/-- Absorbing extensions one by one takes over all their fields, interfaces and tags in order. -/
theorem foldl_absorb (base : Item) (extensions : List Item) :
    extensions.foldl absorb base =
      { base with
        fields := Field.appendMissing base.fields (extensions.flatMap Item.fields)
        interfaces := base.interfaces ++ extensions.flatMap Item.interfaces
        tags := (extensions.flatMap Item.tags).foldl withTag base.tags } := by
  induction extensions generalizing base with
  | nil => simp
  | cons extension rest inductionHypothesis =>
      rw [List.foldl_cons, inductionHypothesis]
      simp only [absorb, List.flatMap_cons, Field.appendMissing_append, List.append_assoc,
        List.foldl_append]

/-- What an item becomes by taking over fields, interfaces and tags.  Its kind may change. -/
structure Grows (before after : Item) : Prop where
  name : after.name = before.name
  fields : before.fields <+: after.fields
  interfaces : before.interfaces <+: after.interfaces
  tags : before.tags <+: after.tags

namespace Grows

theorem refl (item : Item) : Grows item item :=
  ⟨rfl, List.prefix_rfl, List.prefix_rfl, List.prefix_rfl⟩

theorem trans {first second third : Item}
    (left : Grows first second)
    (right : Grows second third) :
    Grows first third :=
  ⟨right.name.trans left.name, left.fields.trans right.fields,
    left.interfaces.trans right.interfaces, left.tags.trans right.tags⟩

theorem appendMissing (item : Item) (fields : List Field) :
    Grows item (item.appendMissing fields) :=
  ⟨rfl, Field.prefix_appendMissing item.fields fields, List.prefix_rfl, List.prefix_rfl⟩

theorem absorb (base extension : Item) : Grows base (base.absorb extension) :=
  ⟨rfl, Field.prefix_appendMissing base.fields extension.fields,
    List.prefix_append base.interfaces extension.interfaces,
    prefix_foldl_withTag base.tags extension.tags⟩

theorem withKind {before after : Item}
    (grows : Grows before after)
    (kind : ItemKind) :
    Grows before { after with kind } :=
  ⟨grows.name, grows.fields, grows.interfaces, grows.tags⟩

end Grows

/-- An item contains the field names, the interfaces and the tags of another. -/
structure Covers (base extension : Item) : Prop where
  fields : ∀ field ∈ extension.fields, base.hasField field.name = true
  interfaces : ∀ interface ∈ extension.interfaces, interface ∈ base.interfaces
  tags : ∀ tag ∈ extension.tags, tag ∈ base.tags

theorem covers_absorb (base extension : Item) : (base.absorb extension).Covers extension where
  fields := by
    intro field member
    have arrived := Field.present_of_mem member
    change Field.present (Field.appendMissing base.fields extension.fields) field.name = true
    rw [Field.present_appendMissing, arrived, Bool.or_true]
  interfaces := fun _ member => List.mem_append_right base.interfaces member
  tags := fun tag member => (mem_foldl_withTag base.tags extension.tags tag).2 (Or.inr member)

/-- An item that grows keeps what it contains. -/
theorem Covers.grows {base grown extension : Item}
    (covers : base.Covers extension)
    (growth : Grows base grown) :
    grown.Covers extension where
  fields := by
    intro field member
    obtain ⟨kept, keptMember, sameName⟩ :=
      (Field.present_iff base.fields field.name).1 (covers.fields field member)
    exact (Field.present_iff grown.fields field.name).2
      ⟨kept, growth.fields.subset keptMember, sameName⟩
  interfaces := fun interface member =>
    growth.interfaces.subset (covers.interfaces interface member)
  tags := fun tag member => growth.tags.subset (covers.tags tag member)

end Item

end SchemaDecl
