import SchemaDecl.Proofs.Merge.Visit

/-!
# Merging items of which less is known

Merging looks at names, kinds and interfaces and passes on everything else as it is.  So whatever is
left out of fields and tags can be left out before merging or afterwards: `value_merge_trimmed`.
-/

namespace SchemaDecl

variable {change : Field → Field} {keep : String → Bool}

namespace Field

theorem present_map (sameName : ∀ field, (change field).name = field.name) (fields : List Field)
    (name : String) :
    present (fields.map change) name = present fields name := by
  simp [present, List.any_map, Function.comp_def, sameName]

theorem missing_map (sameName : ∀ field, (change field).name = field.name)
    (fields additions : List Field) :
    missing (fields.map change) (additions.map change) = (missing fields additions).map change := by
  induction additions generalizing fields with
  | nil => rfl
  | cons field rest inductionHypothesis =>
      have grown : fields.map change ++ [change field] = (fields ++ [field]).map change := by simp
      rw [List.map_cons, missing_cons, missing_cons, present_map sameName, sameName, grown,
        inductionHypothesis, inductionHypothesis]
      split
      · rfl
      · rw [List.map_cons]

theorem appendMissing_map (sameName : ∀ field, (change field).name = field.name)
    (fields additions : List Field) :
    appendMissing (fields.map change) (additions.map change) =
      (appendMissing fields additions).map change := by
  rw [appendMissing, appendMissing, missing_map sameName, List.map_append]

end Field

namespace Item

theorem filter_withTag (tags : List String) (tag : String) :
    (withTag tags tag).filter keep =
      if keep tag then withTag (tags.filter keep) tag else tags.filter keep := by
  unfold withTag
  by_cases kept : keep tag = true
  · by_cases known : tag ∈ tags
    · simp [known, kept]
    · simp [known, kept, List.filter_append]
  · by_cases known : tag ∈ tags
    · simp [known, kept]
    · simp [known, kept, List.filter_append]

theorem filter_foldl_withTag (tags additions : List String) :
    (additions.foldl withTag tags).filter keep =
      (additions.filter keep).foldl withTag (tags.filter keep) := by
  induction additions generalizing tags with
  | nil => rfl
  | cons added rest inductionHypothesis =>
      rw [List.foldl_cons, inductionHypothesis, filter_withTag, List.filter_cons]
      split
      · rw [List.foldl_cons]
      · rfl

/-- The item with its fields changed and some of its tags left out. -/
def trimmed (change : Field → Field) (keep : String → Bool) (item : Item) : Item :=
  { item with fields := item.fields.map change, tags := item.tags.filter keep }

@[simp] theorem name_trimmed (item : Item) : (item.trimmed change keep).name = item.name := rfl

@[simp] theorem kind_trimmed (item : Item) : (item.trimmed change keep).kind = item.kind := rfl

@[simp] theorem interfaces_trimmed (item : Item) :
    (item.trimmed change keep).interfaces = item.interfaces := rfl

theorem appendMissing_trimmed (sameName : ∀ field, (change field).name = field.name) (item : Item)
    (fields : List Field) :
    (item.trimmed change keep).appendMissing (fields.map change) =
      (item.appendMissing fields).trimmed change keep := by
  simp only [appendMissing, trimmed, Field.appendMissing_map sameName]

theorem absorb_trimmed (sameName : ∀ field, (change field).name = field.name)
    (base extension : Item) :
    (base.trimmed change keep).absorb (extension.trimmed change keep) =
      (base.absorb extension).trimmed change keep := by
  simp only [absorb, trimmed, Field.appendMissing_map sameName, filter_foldl_withTag]

end Item

namespace Merge

/-! ## What a visit reads -/

theorem interface?_trimmed (items : List Item) (name : String) :
    interface? (items.map (Item.trimmed change keep)) name =
      (interface? items name).map (Item.trimmed change keep) := by
  rw [interface?, List.find?_map]
  rfl

theorem inherited_trimmed (items : List Item) (names : List String) :
    inherited (items.map (Item.trimmed change keep)) names =
      (inherited items names).map change := by
  rw [inherited, inherited, List.map_flatMap]
  congr 1
  funext name
  rw [interface?_trimmed]
  cases interface? items name <;> rfl

theorem completed_trimmed (sameName : ∀ field, (change field).name = field.name)
    (items : List Item) (item : Item) :
    completed (items.map (Item.trimmed change keep)) (item.trimmed change keep) =
      (completed items item).trimmed change keep := by
  rw [completed, completed, Item.interfaces_trimmed, inherited_trimmed,
    Item.appendMissing_trimmed sameName]

theorem baseIndex?_trimmed (items : List Item) (item : Item) :
    baseIndex? (items.map (Item.trimmed change keep)) (item.trimmed change keep) =
      baseIndex? items item := by
  apply baseIndex?_congr _ rfl rfl
  rw [List.map_map]
  rfl

/-! ## Visits -/

theorem settled_trimmed (sameName : ∀ field, (change field).name = field.name)
    (items : List Item) (item : Item) :
    settled (items.map (Item.trimmed change keep)) (item.trimmed change keep) =
      (settled items item).trimmed change keep := by
  unfold settled
  rw [Item.kind_trimmed, completed_trimmed sameName, baseIndex?_trimmed]
  cases item.kind with
  | object => rfl
  | interface => rfl
  | enum => rfl
  | extension =>
      dsimp only
      split <;> rfl

theorem touched_trimmed (sameName : ∀ field, (change field).name = field.name)
    (items : List Item) (visited : Item) (position : Nat) (item : Item) :
    touched (items.map (Item.trimmed change keep)) (visited.trimmed change keep) position
        (item.trimmed change keep) =
      (touched items visited position item).trimmed change keep := by
  unfold touched
  rw [Item.kind_trimmed, completed_trimmed sameName, baseIndex?_trimmed]
  split
  · rw [Item.absorb_trimmed sameName]
  · rfl

theorem value_visit_trimmed (sameName : ∀ field, (change field).name = field.name)
    (items : List Item) (index : Nat) :
    (visit (items.map (Item.trimmed change keep)) index).value =
      (visit items index).value.map (Item.trimmed change keep) := by
  cases here : items[index]? with
  | none =>
      rw [value_visit_of_none here, value_visit_of_none (by rw [List.getElem?_map, here]; rfl)]
  | some visited =>
      have there : (items.map (Item.trimmed change keep))[index]? =
          some (visited.trimmed change keep) := by
        rw [List.getElem?_map, here, Option.map_some]
      rw [value_visit here, value_visit there]
      apply List.ext_getElem?
      intro position
      simp only [List.getElem?_mapIdx, List.getElem?_map, Option.map_map]
      congr 1
      funext item
      simp only [Function.comp_apply]
      split
      · rw [settled_trimmed sameName]
      · rw [touched_trimmed sameName]

theorem progress_trimmed (sameName : ∀ field, (change field).name = field.name)
    (items : List Item) (count : Nat) :
    progress (items.map (Item.trimmed change keep)) count =
      (progress items count).map (Item.trimmed change keep) := by
  induction count with
  | zero => rfl
  | succ count inductionHypothesis =>
      rw [progress_succ, progress_succ, inductionHypothesis, value_visit_trimmed sameName]

/-- What is left out of fields and tags can be left out before merging or afterwards. -/
theorem value_merge_trimmed (sameName : ∀ field, (change field).name = field.name)
    (items : List Item) :
    (merge (items.map (Item.trimmed change keep))).value =
      (merge items).value.map (Item.trimmed change keep) := by
  rw [value_merge_eq_progress, value_merge_eq_progress, List.length_map, progress_trimmed sameName]

end Merge

end SchemaDecl
