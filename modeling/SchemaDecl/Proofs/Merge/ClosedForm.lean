import SchemaDecl.Proofs.Merge.Retention

/-!
# The merged items in closed form

Where no extension has the name of an interface, interfaces stay as they are, so what an extension
hands to its base depends on the given items alone.  `halfway` is the state of every position after
a number of visits: the extensions in front of a base have been folded into it before its own visit,
those behind it afterwards.  `mergedItem` is the state at the end.
-/

namespace SchemaDecl

namespace Merge

/-- No extension has the name of an interface. -/
def Separate (items : List Item) : Prop :=
  ∀ extension ∈ items, extension.kind = .extension →
    ∀ interface ∈ items, interface.kind = .interface → interface.name ≠ extension.name

instance (items : List Item) : Decidable (Separate items) :=
  inferInstanceAs (Decidable (∀ extension ∈ items, extension.kind = .extension →
    ∀ interface ∈ items, interface.kind = .interface → interface.name ≠ extension.name))

/-- The extensions of a name, in order. -/
def extensionsOf (items : List Item) (name : String) : List Item :=
  items.filter (Item.amends name)

/-- The fields that extensions contribute to their base: each its own fields and those it inherits.
-/
def contributed (items extensions : List Item) : List Field :=
  extensions.flatMap fun extension =>
    Field.appendMissing extension.fields (inherited items extension.interfaces)

/-- What merging makes of the item at a position. -/
def mergedItem (items : List Item) (position : Nat) (item : Item) : Item :=
  if base? items item.name = some position then
    let before := extensionsOf (items.take position) item.name
    let after := extensionsOf (items.drop (position + 1)) item.name
    let gained :=
      match item.kind with
      | .object =>
          contributed items before ++
            inherited items (item.interfaces ++ before.flatMap Item.interfaces) ++
            contributed items after
      | .extension => inherited items item.interfaces ++ contributed items after
      | .enum => contributed items before ++ contributed items after
      | .interface => []
    { name := item.name
      kind := if item.kind = .extension then .object else item.kind
      fields := Field.appendMissing item.fields gained
      interfaces := item.interfaces ++ (before ++ after).flatMap Item.interfaces
      tags := ((before ++ after).flatMap Item.tags).foldl Item.withTag item.tags }
  else
    match item.kind with
    | .object | .extension =>
        { item with
          fields := Field.appendMissing item.fields (inherited items item.interfaces) }
    | .enum | .interface => item

/-! ## The state between the visits -/

/-- The extensions among some items that are folded into the item of a name at a position, each with
the fields of its interfaces. -/
def joining (items : List Item) (position : Nat) (name : String) (part : List Item) : List Item :=
  if base? items name = some position then (extensionsOf part name).map (completed items) else []

/-- What its own visit makes of the item at a position. -/
def ownVisit (items : List Item) (position : Nat) (item : Item) : Item :=
  match item.kind with
  | .object => completed items item
  | .extension =>
      if base? items item.name = some position then { completed items item with kind := .object }
      else completed items item
  | _ => item

/-- The item at a position after a number of visits. -/
def halfway (items : List Item) (count position : Nat) (item : Item) : Item :=
  let gathered :=
    (joining items position item.name (items.take (min count position))).foldl Item.absorb item
  if count ≤ position then gathered
  else
    (joining items position item.name ((items.take count).drop (position + 1))).foldl Item.absorb
      (ownVisit items position gathered)

@[simp] theorem joining_nil (items : List Item) (position : Nat) (name : String) :
    joining items position name [] = [] := by
  simp [joining, extensionsOf]

theorem joining_append (items : List Item) (position : Nat) (name : String)
    (first second : List Item) :
    joining items position name (first ++ second) =
      joining items position name first ++ joining items position name second := by
  unfold joining extensionsOf
  split
  · rw [List.filter_append, List.map_append]
  · rfl

/-- A name that no extension has. -/
theorem extensionsOf_eq_nil {part : List Item} {name : String}
    (unshared : ∀ item ∈ part, item.kind = .extension → item.name ≠ name) :
    extensionsOf part name = [] := by
  rw [extensionsOf, List.filter_eq_nil_iff]
  intro item member amends
  obtain ⟨sameName, kind⟩ := (Item.amends_iff name item).1 amends
  exact unshared item member kind sameName

theorem extensionsOf_interface {items part : List Item} {item : Item}
    (separate : Separate items)
    (member : item ∈ items)
    (kind : item.kind = .interface)
    (contained : ∀ other ∈ part, other ∈ items) :
    extensionsOf part item.name = [] :=
  extensionsOf_eq_nil fun other inPart isExtension sameName =>
    separate other (contained other inPart) isExtension item member kind sameName.symm

theorem joining_eq_nil {items part : List Item} {name : String}
    (nothing : extensionsOf part name = [])
    (position : Nat) :
    joining items position name part = [] := by
  simp [joining, nothing]

/-- An extension joins the base of its name and no other item. -/
theorem joining_singleton {items : List Item} {position : Nat} {item : Item}
    (here : items[position]? = some item)
    (visited : Item) :
    joining items position item.name [visited] =
      if visited.kind = .extension ∧ base? items visited.name = some position then
        [completed items visited]
      else [] := by
  by_cases kind : visited.kind = .extension
  · by_cases sameName : visited.name = item.name
    · have amends := (Item.amends_iff item.name visited).2 ⟨sameName, kind⟩
      unfold joining extensionsOf
      rw [List.filter_singleton, amends, sameName]
      simp [kind]
    · have elsewhere : base? items visited.name ≠ some position := by
        intro found
        exact sameName (name_of_base? found here).symm
      rw [if_neg fun all => elsewhere all.2]
      apply joining_eq_nil
      exact extensionsOf_eq_nil fun other member _ => List.mem_singleton.1 member ▸ sameName
  · rw [if_neg fun all => kind all.1]
    apply joining_eq_nil
    exact extensionsOf_eq_nil fun other member isExtension =>
      absurd isExtension (List.mem_singleton.1 member ▸ kind)

/-- Interfaces are found as before when no interface has changed and none has been added. -/
theorem interface?_congr {items changed : List Item}
    (sameLength : changed.length = items.length)
    (same : ∀ (position : Nat) (item : Item), items[position]? = some item →
      ∃ current : Item, changed[position]? = some current ∧ current.name = item.name ∧
        (current.kind = .interface ↔ item.kind = .interface) ∧
        (item.kind = .interface → current = item))
    (name : String) :
    interface? changed name = interface? items name := by
  let test : Item → Bool := fun item => item.kind == .interface && item.name == name
  have sameTests : changed.map test = items.map test := by
    apply List.ext_getElem (by simpa using sameLength)
    intro position _ inside
    rw [List.length_map] at inside
    obtain ⟨current, atPosition, sameName, sameKind, _⟩ :=
      same position items[position] (List.getElem?_eq_getElem inside)
    obtain ⟨_, atCurrent⟩ := List.getElem?_eq_some_iff.1 atPosition
    rw [List.getElem_map, List.getElem_map, atCurrent, Bool.eq_iff_iff]
    simp [test, sameName, sameKind]
  have sameIndex : changed.findIdx? test = items.findIdx? test := by
    have through (list : List Item) : list.findIdx? test = (list.map test).findIdx? id := by
      rw [List.findIdx?_map]
      rfl
    rw [through changed, through items, sameTests]
  change changed.find? test = items.find? test
  rw [List.find?_eq_bind_findIdx?_getElem?, List.find?_eq_bind_findIdx?_getElem?, sameIndex]
  cases found : items.findIdx? test with
  | none => rfl
  | some position =>
      obtain ⟨⟨item, here, holds⟩, _⟩ := (findIdx?_eq_some_iff_first items test position).1 found
      obtain ⟨current, atPosition, _, _, unchanged⟩ := same position item here
      have kind : item.kind = .interface := by
        simp only [test, Bool.and_eq_true, beq_iff_eq] at holds
        exact holds.1
      rw [Option.bind_some, Option.bind_some, atPosition, here, unchanged kind]

@[simp] theorem halfway_zero (items : List Item) (position : Nat) (item : Item) :
    halfway items 0 position item = item := by
  simp [halfway]

/-- The visit of an item adds its own visit to what it is. -/
theorem halfway_succ_self (items : List Item) (position : Nat) (item : Item) :
    halfway items (position + 1) position item =
      ownVisit items position (halfway items position position item) := by
  have nothingBehind : (items.take (position + 1)).drop (position + 1) = [] :=
    List.drop_eq_nil_of_le (List.length_take_le (position + 1) items)
  have visited : ¬position + 1 ≤ position := by omega
  have sameFront : min (position + 1) position = min position position := by omega
  simp only [halfway, if_neg visited, if_pos (Nat.le_refl position), sameFront, nothingBehind,
    joining_nil, List.foldl_nil]

/-- The visit of another item adds the extension that joins. -/
theorem halfway_succ_of_ne {items : List Item} {count position : Nat} {item visited : Item}
    (here : items[position]? = some item)
    (visits : items[count]? = some visited)
    (other : position ≠ count) :
    halfway items (count + 1) position item =
      if visited.kind = .extension ∧ base? items visited.name = some position then
        (halfway items count position item).absorb (completed items visited)
      else halfway items count position item := by
  have grown : items.take (count + 1) = items.take count ++ [visited] := by
    rw [List.take_add_one, visits, Option.toList_some]
  have joins := joining_singleton here visited
  rcases Nat.lt_or_gt_of_ne other with behind | ahead
  · -- The item has been visited before, so the extension comes last.
    have bound : position + 1 ≤ (items.take count).length := by
      have inside := (List.getElem?_eq_some_iff.1 visits).1
      rw [List.length_take]
      omega
    have later : ¬count ≤ position := by omega
    have evenLater : ¬count + 1 ≤ position := by omega
    have sameFront : min (count + 1) position = min count position := by omega
    simp only [halfway, if_neg later, if_neg evenLater, sameFront, grown,
      List.drop_append_of_le_length bound, joining_append, List.foldl_append, joins]
    split <;> rfl
  · have before : count ≤ position := by omega
    have stillBefore : count + 1 ≤ position := by omega
    simp only [halfway, if_pos before, if_pos stillBefore, Nat.min_eq_left before,
      Nat.min_eq_left stillBefore, grown, joining_append, List.foldl_append, joins]
    split <;> rfl

/-- Nothing changes beyond the end. -/
theorem halfway_succ_of_none {items : List Item} {count position : Nat} {item : Item}
    (here : items[position]? = some item)
    (beyond : items[count]? = none) :
    halfway items (count + 1) position item = halfway items count position item := by
  have inside := (List.getElem?_eq_some_iff.1 here).1
  have atEnd := List.getElem?_eq_none_iff.1 beyond
  have all : items.take count = items := List.take_of_length_le atEnd
  have stillAll : items.take (count + 1) = items := List.take_of_length_le (by omega)
  have later : ¬count ≤ position := by omega
  have evenLater : ¬count + 1 ≤ position := by omega
  have sameFront : min (count + 1) position = min count position := by omega
  simp only [halfway, if_neg later, if_neg evenLater, sameFront, all, stillAll]

/-- Interfaces stay as they are. -/
theorem halfway_interface {items : List Item} (separate : Separate items) (count : Nat)
    {position : Nat} {item : Item}
    (here : items[position]? = some item)
    (kind : item.kind = .interface) :
    halfway items count position item = item := by
  have member := List.mem_of_getElem? here
  have nothingFront : extensionsOf (items.take (min count position)) item.name = [] :=
    extensionsOf_interface separate member kind fun other => List.mem_of_mem_take
  have nothingBehind : extensionsOf ((items.take count).drop (position + 1)) item.name = [] :=
    extensionsOf_interface separate member kind fun other inPart =>
      List.mem_of_mem_take (List.mem_of_mem_drop inPart)
  simp [halfway, joining_eq_nil nothingFront, joining_eq_nil nothingBehind, ownVisit, kind]

/-! ## The run -/

/-- In a state whose items are halfway, interfaces are found as in the given items. -/
theorem interface?_halfway {items : List Item} (separate : Separate items) {count : Nat}
    (reached : ∀ (position : Nat) (item : Item), items[position]? = some item →
      (progress items count)[position]? = some (halfway items count position item))
    (name : String) :
    interface? (progress items count) name = interface? items name := by
  apply interface?_congr (length_progress items count)
  intro position item here
  obtain ⟨current, atPosition, stands⟩ := standing_progress items count position item here
  have same := atPosition
  rw [reached position item here, Option.some_inj] at same
  refine ⟨current, atPosition, stands.grows.name, ?_, ?_⟩
  · rw [stands.kind, kindAfter]
    split
    · rename_i promoted
      simp [promoted.1]
    · rfl
  · intro kind
    rw [← same, halfway_interface separate count here kind]

/-- An item takes over the same fields wherever the interfaces are the same. -/
theorem completed_congr {items state : List Item}
    (sameInterfaces : ∀ name, interface? state name = interface? items name)
    (item : Item) :
    completed state item = completed items item := by
  simp only [completed, inherited, sameInterfaces]

/-- As long as interfaces are found as in the given items, the visit of an item is its own visit
there. -/
theorem settled_progress {items : List Item} {position : Nat} {item current : Item}
    (sameInterfaces : ∀ name,
      interface? (progress items position) name = interface? items name)
    (here : items[position]? = some item)
    (there : (progress items position)[position]? = some current) :
    settled (progress items position) current = ownVisit items position current := by
  have stands := standing_of_progress here there
  cases kind : item.kind with
  | extension =>
      have waiting := stands.waiting kind (Nat.le_refl position)
      subst waiting
      rw [settled_extension kind, baseIndex?_progress here kind, completed_congr sameInterfaces]
      obtain ⟨base, found⟩ := exists_base? (List.mem_of_getElem? here)
      by_cases isBase : base = position
      · simp [ownVisit, kind, found, isBase]
      · simp [ownVisit, kind, found, isBase]
  | object | interface | enum =>
      have sameKind : current.kind = item.kind := by
        rw [stands.kind, kindAfter_of_ne (by rw [kind]; decide)]
      simp [settled, ownVisit, sameKind, kind, completed_congr sameInterfaces]

/-- As long as interfaces are found as in the given items, the visit of an extension lets the base of
its name absorb it, and no other visit touches another item. -/
theorem touched_progress {items : List Item} {count position : Nat} {visited current : Item}
    (sameInterfaces : ∀ name, interface? (progress items count) name = interface? items name)
    (visits : items[count]? = some visited)
    (there : (progress items count)[count]? = some current)
    (other : position ≠ count)
    (item : Item) :
    touched (progress items count) current position item =
      if visited.kind = .extension ∧ base? items visited.name = some position then
        item.absorb (completed items visited)
      else item := by
  have stands := standing_of_progress visits there
  rw [touched]
  by_cases kind : visited.kind = .extension
  · have waiting := stands.waiting kind (Nat.le_refl count)
    subst waiting
    rw [baseIndex?_progress visits kind, completed_congr sameInterfaces]
    by_cases isBase : base? items current.name = some count
    · simp [isBase, Ne.symm other]
    · rw [if_neg isBase]
  · have sameKind : current.kind = visited.kind := by
      rw [stands.kind, kindAfter_of_ne kind]
    simp [sameKind, kind]

/-- Every item is halfway after any number of visits. -/
theorem getElem?_progress {items : List Item} (separate : Separate items) (count : Nat) :
    ∀ (position : Nat) (item : Item), items[position]? = some item →
      (progress items count)[position]? = some (halfway items count position item) := by
  induction count with
  | zero =>
      intro position item here
      rw [progress_zero, halfway_zero, here]
  | succ count inductionHypothesis =>
      intro position item here
      have atPosition := inductionHypothesis position item here
      have sameInterfaces := interface?_halfway separate inductionHypothesis
      rw [progress_succ]
      by_cases self : position = count
      · subst self
        rw [getElem?_visit_self atPosition, halfway_succ_self,
          settled_progress sameInterfaces here atPosition]
      · cases visits : items[count]? with
        | none =>
            have beyond : (progress items count)[count]? = none := by
              rw [List.getElem?_eq_none_iff] at visits ⊢
              rwa [length_progress]
            rw [value_visit_of_none beyond, halfway_succ_of_none here visits, atPosition]
        | some visited =>
            have atCount := inductionHypothesis count visited visits
            rw [getElem?_visit_of_ne atCount atPosition self, halfway_succ_of_ne here visits self,
              touched_progress sameInterfaces visits atCount self]

/-- Merging keeps the interfaces. -/
theorem interface?_merge {items : List Item} (separate : Separate items) (name : String) :
    interface? (merge items).value name = interface? items name := by
  rw [value_merge_eq_progress]
  exact interface?_halfway separate (getElem?_progress separate items.length) name

/-! ## The state at the end -/

/-- Absorbing completed extensions takes over what they contribute. -/
theorem foldl_absorb_completed (items : List Item) (base : Item) (extensions : List Item) :
    (extensions.map (completed items)).foldl Item.absorb base =
      { base with
        fields := Field.appendMissing base.fields (contributed items extensions)
        interfaces := base.interfaces ++ extensions.flatMap Item.interfaces
        tags := (extensions.flatMap Item.tags).foldl Item.withTag base.tags } := by
  rw [Item.foldl_absorb, List.flatMap_map, List.flatMap_map, List.flatMap_map]
  rfl

/-- No extension stands before the base of a name that only extensions have. -/
theorem extensionsOf_take_base {items : List Item} {position : Nat} {item : Item}
    (here : items[position]? = some item)
    (kind : item.kind = .extension)
    (isBase : base? items item.name = some position) :
    extensionsOf (items.take position) item.name = [] := by
  obtain ⟨_, first⟩ := (base?_eq_some_iff_orphan here kind).1 isBase
  rw [extensionsOf, List.filter_eq_nil_iff]
  intro other member amends
  obtain ⟨earlier, atEarlier⟩ := List.mem_iff_getElem?.1 member
  rw [List.getElem?_take] at atEarlier
  split at atEarlier
  · rename_i before
    obtain ⟨sameName, isExtension⟩ := (Item.amends_iff item.name other).1 amends
    exact first earlier before other atEarlier sameName isExtension
  · cases atEarlier

/-- At the end every item is what the closed form says. -/
theorem halfway_length {items : List Item} (separate : Separate items) {position : Nat}
    {item : Item}
    (here : items[position]? = some item) :
    halfway items items.length position item = mergedItem items position item := by
  have inside := (List.getElem?_eq_some_iff.1 here).1
  have later : ¬items.length ≤ position := by omega
  have front : min items.length position = position := by omega
  by_cases isBase : base? items item.name = some position
  · cases kind : item.kind with
    | object =>
        simp only [halfway, if_neg later, front, List.take_length, joining, if_pos isBase,
          foldl_absorb_completed, ownVisit, kind, completed, Item.appendMissing, mergedItem,
          Field.appendMissing_append, List.flatMap_append, List.foldl_append, List.append_assoc,
          reduceCtorEq, if_false]
    | enum =>
        simp only [halfway, if_neg later, front, List.take_length, joining, if_pos isBase,
          foldl_absorb_completed, ownVisit, kind, mergedItem,
          Field.appendMissing_append, List.flatMap_append, List.foldl_append, List.append_assoc,
          reduceCtorEq, if_false]
    | extension =>
        have nothingFront := extensionsOf_take_base here kind isBase
        simp only [halfway, if_neg later, front, List.take_length, joining, if_pos isBase,
          nothingFront, List.map_nil, List.foldl_nil, List.nil_append,
          foldl_absorb_completed, ownVisit, kind, completed, Item.appendMissing, mergedItem,
          Field.appendMissing_append, if_true]
    | interface =>
        have member := List.mem_of_getElem? here
        have nothingFront : extensionsOf (items.take position) item.name = [] :=
          extensionsOf_interface separate member kind fun other => List.mem_of_mem_take
        have nothingBehind : extensionsOf (items.drop (position + 1)) item.name = [] :=
          extensionsOf_interface separate member kind fun other => List.mem_of_mem_drop
        rw [halfway_interface separate items.length here kind, mergedItem, if_pos isBase]
        simp only [nothingFront, nothingBehind, kind, reduceCtorEq, if_false,
          Field.appendMissing_nil, List.append_nil, List.flatMap_nil, List.foldl_nil]
        rw [← kind]
  · cases kind : item.kind with
    | object | enum | extension | interface =>
        simp [halfway, later, joining, isBase, ownVisit, kind, completed, Item.appendMissing,
          mergedItem]

theorem getElem?_merge {items : List Item} (separate : Separate items) (position : Nat) :
    (merge items).value[position]? = items[position]?.map (mergedItem items position) := by
  rw [value_merge_eq_progress]
  cases here : items[position]? with
  | none =>
      rw [List.getElem?_eq_none_iff] at here
      rw [Option.map_none, List.getElem?_eq_none_iff, length_progress]
      exact here
  | some item =>
      rw [getElem?_progress separate items.length position item here, halfway_length separate here,
        Option.map_some]

/-- Where no extension has the name of an interface, merging gives every position its closed form.
-/
theorem value_merge_eq_mapIdx_mergedItem (items : List Item) (separate : Separate items) :
    (merge items).value = items.mapIdx (mergedItem items) := by
  apply List.ext_getElem?
  intro position
  rw [getElem?_merge separate, List.getElem?_mapIdx]

/-- An object between two of its extensions, and two orphans, in front of the interfaces. -/
def interleavedItems : List Item :=
  [{ name := "User", kind := .extension, fields := [{ name := "rank" }], interfaces := ["Node"],
     tags := ["entity"] },
   { name := "User", kind := .object, fields := [{ name := "name" }], interfaces := ["Named"] },
   { name := "User", kind := .extension, fields := [{ name := "id" }, { name := "mail" }] },
   { name := "Team", kind := .extension, interfaces := ["Named"] },
   { name := "Team", kind := .extension, fields := [{ name := "size" }], interfaces := ["Node"] },
   { name := "Node", kind := .interface, fields := [{ name := "id" }] },
   { name := "Named", kind := .interface, fields := [{ name := "name" }, { name := "title" }] }]

/-- What its first extension inherits comes before what the object inherits itself. -/
theorem value_merge_interleavedItems :
    Separate interleavedItems ∧
      (merge interleavedItems).value = interleavedItems.mapIdx (mergedItem interleavedItems) ∧
      (merge interleavedItems).value[1]? = some
        { name := "User", kind := .object,
          fields := [{ name := "name" }, { name := "rank" }, { name := "id" }, { name := "title" },
            { name := "mail" }],
          interfaces := ["Named", "Node"], tags := ["entity"] } ∧
      (merge interleavedItems).value[3]? = some
        { name := "Team", kind := .object,
          fields := [{ name := "name" }, { name := "title" }, { name := "size" }, { name := "id" }],
          interfaces := ["Named", "Node"] } := by
  have separate : Separate interleavedItems := by decide
  have closed := value_merge_eq_mapIdx_mergedItem interleavedItems separate
  refine ⟨separate, closed, ?_, ?_⟩
  · rw [closed]
    decide
  · rw [closed]
    decide

end Merge

end SchemaDecl
