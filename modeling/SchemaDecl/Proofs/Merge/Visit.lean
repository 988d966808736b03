import SchemaDecl.Merge
import SchemaDecl.Proofs.Growth

/-!
# What a visit changes

A visit settles the item at its own position and, if that item is an extension, lets its base absorb
it; every other position keeps its item.  `value_visit` says so for all positions at once, and all
that follows about merging refers to it.  `progress` gives the items after a number of visits.
-/

namespace SchemaDecl

namespace Merge

/-- The fields that the declared interfaces among some names hand down, in order. -/
def inherited (items : List Item) (names : List String) : List Field :=
  names.flatMap fun name => ((interface? items name).map Item.fields).getD []

/-- An item with the fields of its interfaces. -/
def completed (items : List Item) (item : Item) : Item :=
  item.appendMissing (inherited items item.interfaces)

/-- What the visit of an item leaves at the item's own position. -/
def settled (items : List Item) (item : Item) : Item :=
  match item.kind with
  | .object => completed items item
  | .extension =>
      if (baseIndex? items item).isSome then completed items item
      else { completed items item with kind := .object }
  | _ => item

/-- What the visit of an item leaves at another position. -/
def touched (items : List Item) (visited : Item) (position : Nat) (item : Item) : Item :=
  if visited.kind = .extension ∧ baseIndex? items visited = some position then
    item.absorb (completed items visited)
  else item

@[simp] theorem inherited_nil (items : List Item) : inherited items [] = [] := rfl

theorem inherited_append (items : List Item) (first second : List String) :
    inherited items (first ++ second) = inherited items first ++ inherited items second :=
  List.flatMap_append

theorem mem_inherited_iff (items : List Item) (names : List String) (field : Field) :
    field ∈ inherited items names ↔
      ∃ name ∈ names, ∃ interface, interface? items name = some interface ∧
        field ∈ interface.fields := by
  rw [inherited, List.mem_flatMap]
  refine exists_congr fun name => and_congr_right fun _ => ?_
  cases interface? items name with
  | none => simp
  | some interface => simp

@[simp] theorem name_completed (items : List Item) (item : Item) :
    (completed items item).name = item.name := rfl

@[simp] theorem kind_completed (items : List Item) (item : Item) :
    (completed items item).kind = item.kind := rfl

/-! ## Values of the steps -/

theorem value_inheritFrom (items : List Item) (item : Item) (interface : String) :
    (inheritFrom items item interface).value =
      item.appendMissing (inherited items [interface]) := by
  unfold inheritFrom
  cases declared : interface? items interface with
  | none => simp [inherited, declared, Item.appendMissing]
  | some found => simp [inherited, declared]

theorem value_inherit (items : List Item) (item : Item) :
    (inherit items item).value = completed items item := by
  have general (names : List String) (start : Item) :
      (names.foldlM (inheritFrom items) start).value =
        start.appendMissing (inherited items names) := by
    induction names generalizing start with
    | nil => simp [Item.appendMissing]
    | cons name rest inductionHypothesis =>
        rw [List.foldlM_cons, Logged.value_bind, inductionHypothesis, value_inheritFrom,
          ← Item.appendMissing_append, ← inherited_append, List.singleton_append]
  exact general item.interfaces item

theorem value_injectAt {items : List Item} {index : Nat} {item : Item}
    (here : items[index]? = some item) :
    (injectAt items index).value = items.set index (completed items item) := by
  simp [injectAt, here, value_inherit]

/-- The base of an extension depends on names and kinds alone. -/
theorem baseIndex?_congr {items changed : List Item} {item other : Item}
    (sameItems : changed.map (fun item => (item.name, item.kind)) =
      items.map (fun item => (item.name, item.kind)))
    (sameName : other.name = item.name)
    (sameKind : other.kind = item.kind) :
    baseIndex? changed other = baseIndex? items item := by
  let test : String × ItemKind → Bool := fun outline =>
    outline.1 == item.name && outline.2 != item.kind
  have through (list : List Item) :
      baseIndex? list item = (list.map fun item => (item.name, item.kind)).findIdx? test := by
    rw [List.findIdx?_map]
    rfl
  have sameItem : baseIndex? changed other = baseIndex? changed item := by
    unfold baseIndex?
    rw [sameName, sameKind]
  rw [sameItem, through changed, through items, sameItems]

theorem baseIndex?_set_completed {items : List Item} {index : Nat} {item : Item}
    (here : items[index]? = some item) :
    baseIndex? (items.set index (completed items item)) (completed items item) =
      baseIndex? items item := by
  apply baseIndex?_congr _ rfl rfl
  obtain ⟨bound, atIndex⟩ := List.getElem?_eq_some_iff.1 here
  rw [List.map_set]
  apply List.ext_getElem (by simp)
  intro position _ inBounds
  by_cases equal : index = position
  · subst equal
    simp [atIndex]
  · simp [List.getElem_set_ne equal]

/-- A base is of another kind than the item it is the base of. -/
theorem kind_of_baseIndex? {items : List Item} {extension base : Item} {position : Nat}
    (found : baseIndex? items extension = some position)
    (here : items[position]? = some base) :
    base.name = extension.name ∧ base.kind ≠ extension.kind := by
  obtain ⟨bound, holds, _⟩ := List.findIdx?_eq_some_iff_getElem.1 found
  obtain ⟨_, atPosition⟩ := List.getElem?_eq_some_iff.1 here
  rw [atPosition] at holds
  simpa using holds

theorem value_foldAt {items : List Item} {index : Nat} {extension : Item}
    (here : items[index]? = some extension) :
    (foldAt items index).value =
      match baseIndex? items extension with
      | none => items.set index { extension with kind := .object }
      | some base => items.modify base (·.absorb extension) := by
  unfold foldAt
  rw [here]
  cases found : baseIndex? items extension with
  | none => simp [found]
  | some base => simp [found]

/-! ## One visit -/

/-- A visit settles the visited item and touches the others. -/
theorem value_visit {items : List Item} {index : Nat} {visited : Item}
    (here : items[index]? = some visited) :
    (visit items index).value =
      items.mapIdx fun position item =>
        if position = index then settled items item else touched items visited position item := by
  obtain ⟨bound, atIndex⟩ := List.getElem?_eq_some_iff.1 here
  have injected : (items.set index (completed items visited))[index]? =
      some (completed items visited) := by
    simp [bound]
  apply List.ext_getElem?
  intro position
  rw [List.getElem?_mapIdx]
  unfold visit
  rw [here, Option.map_some]
  cases kind : visited.kind with
  | object =>
      rw [value_injectAt here, List.getElem?_set]
      by_cases equal : index = position
      · subst equal
        simp [bound, atIndex, settled, kind]
      · simp [equal, Ne.symm equal, touched, kind]
  | extension =>
      simp only [Logged.value_bind]
      rw [value_injectAt here, value_foldAt injected, baseIndex?_set_completed here]
      cases found : baseIndex? items visited with
      | none =>
          by_cases equal : index = position
          · subst equal
            simp [bound, atIndex, settled, kind, found]
          · simp [equal, Ne.symm equal, touched, found]
      | some base =>
          have apart : base ≠ index := by
            intro equal
            subst equal
            exact (kind_of_baseIndex? found here).2 rfl
          simp only [List.getElem?_modify, List.getElem?_set]
          by_cases equal : index = position
          · subst equal
            simp [apart, bound, atIndex, settled, kind, found]
          · by_cases isBase : base = position
            · subst isBase
              simp [equal, Ne.symm equal, touched, kind, found]
            · simp [equal, Ne.symm equal, isBase, touched, found]
  | interface | enum =>
      by_cases equal : position = index
      · subst equal
        simp [here, settled, kind]
      · simp [equal, touched, kind]

theorem getElem?_visit_self {items : List Item} {index : Nat} {visited : Item}
    (here : items[index]? = some visited) :
    (visit items index).value[index]? = some (settled items visited) := by
  rw [value_visit here, List.getElem?_mapIdx, here, Option.map_some, if_pos rfl]

theorem getElem?_visit_of_ne {items : List Item} {index position : Nat} {visited item : Item}
    (here : items[index]? = some visited)
    (there : items[position]? = some item)
    (other : position ≠ index) :
    (visit items index).value[position]? = some (touched items visited position item) := by
  rw [value_visit here, List.getElem?_mapIdx, there, Option.map_some, if_neg other]

/-- A visit beyond the end changes nothing. -/
theorem value_visit_of_none {items : List Item} {index : Nat}
    (beyond : items[index]? = none) :
    (visit items index).value = items := by
  simp [visit, beyond]

@[simp] theorem length_value_visit (items : List Item) (index : Nat) :
    (visit items index).value.length = items.length := by
  cases here : items[index]? with
  | none => rw [value_visit_of_none here]
  | some visited => rw [value_visit here, List.length_mapIdx]

theorem grows_settled (items : List Item) (item : Item) : item.Grows (settled items item) := by
  have completes : item.Grows (completed items item) := Item.Grows.appendMissing item _
  unfold settled
  split
  · exact completes
  · split
    · exact completes
    · exact completes.withKind .object
  · exact Item.Grows.refl item

theorem grows_touched (items : List Item) (visited : Item) (position : Nat) (item : Item) :
    item.Grows (touched items visited position item) := by
  unfold touched
  split
  · exact Item.Grows.absorb item _
  · exact Item.Grows.refl item

/-- The visit of an item changes none of its own interfaces. -/
@[simp] theorem interfaces_settled (items : List Item) (item : Item) :
    (settled items item).interfaces = item.interfaces := by
  unfold settled
  split
  · rfl
  · split <;> rfl
  · rfl

/-- The visit of an item changes none of its own tags. -/
@[simp] theorem tags_settled (items : List Item) (item : Item) :
    (settled items item).tags = item.tags := by
  unfold settled
  split
  · rfl
  · split <;> rfl
  · rfl

@[simp] theorem kind_touched (items : List Item) (visited : Item) (position : Nat) (item : Item) :
    (touched items visited position item).kind = item.kind := by
  unfold touched
  split <;> rfl

/-- Every item grows in a visit. -/
theorem grows_visit (items : List Item) (index position : Nat) {item : Item}
    (here : items[position]? = some item) :
    ∃ grown, (visit items index).value[position]? = some grown ∧ item.Grows grown := by
  cases visits : items[index]? with
  | none =>
      rw [value_visit_of_none visits]
      exact ⟨item, here, Item.Grows.refl item⟩
  | some visited =>
      rw [value_visit visits, List.getElem?_mapIdx, here]
      refine ⟨_, rfl, ?_⟩
      split
      · exact grows_settled items item
      · exact grows_touched items visited position item

/-- The visit of another item leaves an extension alone. -/
theorem touched_extension {items : List Item} {visited item : Item} {position : Nat}
    (here : items[position]? = some item)
    (kind : item.kind = .extension) :
    touched items visited position item = item := by
  unfold touched
  split
  · rename_i folds
    have different := (kind_of_baseIndex? folds.2 here).2
    exact absurd (kind.trans folds.1.symm) different
  · rfl

/-! ## All visits -/

/-- The items after a number of visits. -/
def progress (items : List Item) (count : Nat) : List Item :=
  (List.range count).foldl (fun items index => (visit items index).value) items

@[simp] theorem progress_zero (items : List Item) : progress items 0 = items := rfl

theorem progress_succ (items : List Item) (count : Nat) :
    progress items (count + 1) = (visit (progress items count) count).value := by
  simp [progress, List.range_succ]

@[simp] theorem length_progress (items : List Item) (count : Nat) :
    (progress items count).length = items.length := by
  induction count with
  | zero => rfl
  | succ count inductionHypothesis =>
      rw [progress_succ, length_value_visit, inductionHypothesis]

/-- The merged items are the items after as many visits as there are items. -/
theorem value_merge_eq_progress (items : List Item) :
    (merge items).value = progress items items.length :=
  value_merge items

/-- Every item grows from the start to any later state. -/
theorem grows_progress (items : List Item) (count position : Nat) {item : Item}
    (here : items[position]? = some item) :
    ∃ current, (progress items count)[position]? = some current ∧ item.Grows current := by
  induction count with
  | zero => exact ⟨item, here, Item.Grows.refl item⟩
  | succ count inductionHypothesis =>
      obtain ⟨earlier, atPosition, grows⟩ := inductionHypothesis
      obtain ⟨current, now, further⟩ := grows_visit (progress items count) count position atPosition
      rw [progress_succ]
      exact ⟨current, now, grows.trans further⟩

/-- Visits keep the names in order. -/
theorem names_progress (items : List Item) (count : Nat) :
    (progress items count).map Item.name = items.map Item.name := by
  apply List.ext_getElem (by simp)
  intro position _ inside
  rw [List.length_map] at inside
  obtain ⟨current, atPosition, grows⟩ :=
    grows_progress items count position (List.getElem?_eq_getElem inside)
  obtain ⟨_, equal⟩ := List.getElem?_eq_some_iff.1 atPosition
  rw [List.getElem_map, List.getElem_map, equal, grows.name]

end Merge

end SchemaDecl
