import SchemaDecl.Proofs.Merge.Base

/-!
# What merging keeps

Merging keeps number, order and names of the items, lets every item grow, and changes the kind of an
item only where it makes an orphaned extension an object.  What is left as an extension is contained
in the base of its name.  No condition on the items is needed: the base an extension is folded into
may be an interface or an enum, and names, fields and tags may repeat.
-/

namespace SchemaDecl

namespace Merge

theorem kindAfter_of_ne {item : Item} (kind : item.kind ≠ .extension) (items : List Item)
    (count position : Nat) :
    kindAfter items count position item = item.kind :=
  if_neg fun all => kind all.1

theorem kind_settled_of_ne {item : Item} (kind : item.kind ≠ .extension) (items : List Item) :
    (settled items item).kind = item.kind := by
  unfold settled
  split
  · rfl
  · contradiction
  · rfl

theorem settled_extension {item : Item} (kind : item.kind = .extension) (items : List Item) :
    settled items item =
      if (baseIndex? items item).isSome then completed items item
      else { completed items item with kind := .object } := by
  simp [settled, kind]

/-! ## Standing through a visit -/

/-- An extension finds its base unless it is the base itself. -/
theorem baseIndex?_of_standing {items state : List Item} {count : Nat} {extension : Item}
    (standing : ∀ position item, items[position]? = some item →
      ∃ current, state[position]? = some current ∧ Standing items count position item current)
    (sameLength : state.length = items.length)
    (here : items[count]? = some extension)
    (kind : extension.kind = .extension) :
    baseIndex? state extension =
      if base? items extension.name = some count then none else base? items extension.name := by
  obtain ⟨base, first, found, atBase, sameName⟩ := exists_base_item (List.mem_of_getElem? here)
  rw [baseIndex?_extension state kind,
    findIdx?_defines_of_standing standing sameLength found atBase, found]
  by_cases self : base = count
  · subst self
    rw [here, Option.some_inj] at atBase
    subst atBase
    simp [kind]
  · -- An extension that is the base of its name stands before all others of the name.
    have before : first.kind = .extension → base < count := by
      intro isExtension
      rw [← sameName] at found
      obtain ⟨_, isFirst⟩ := (base?_eq_some_iff_orphan atBase isExtension).1 found
      by_contra late
      exact isFirst count (by omega) extension here sameName.symm kind
    have ready : ¬(first.kind = .extension ∧ count ≤ base) := by
      rintro ⟨isExtension, late⟩
      exact absurd (before isExtension) (by omega)
    rw [if_neg ready, if_neg (by simpa using self)]

/-- The visited item keeps its standing. -/
theorem Standing.settles {items state : List Item} {count : Nat} {item current : Item}
    (standing : Standing items count count item current)
    (search : item.kind = .extension →
      baseIndex? state item =
        if base? items item.name = some count then none else base? items item.name)
    (hasBase : ∃ base, base? items item.name = some base) :
    Standing items (count + 1) count item (settled state current) where
  grows := standing.grows.trans (grows_settled state current)
  kind := by
    by_cases kind : item.kind = .extension
    · obtain ⟨base, found⟩ := hasBase
      rw [standing.waiting kind (Nat.le_refl count), settled_extension kind, search kind, kindAfter,
        found]
      by_cases self : base = count
      · simp [self, kind]
      · simp [self, kind]
    · have sameKind : current.kind = item.kind :=
        standing.kind.trans (kindAfter_of_ne kind items count count)
      rw [kind_settled_of_ne (sameKind ▸ kind), kindAfter_of_ne kind, sameKind]
  waiting := fun _ late => absurd late (by omega)

/-- The standing of an item lasts through the visit of another that leaves it alone. -/
theorem Standing.later {items : List Item} {count position : Nat} {item current : Item}
    (standing : Standing items count position item current)
    (other : position ≠ count) :
    Standing items (count + 1) position item current where
  grows := standing.grows
  kind := by
    have sameBound : position < count + 1 ↔ position < count := by omega
    simp only [standing.kind, kindAfter, sameBound]
  waiting := fun kind late => standing.waiting kind (by omega)

/-- The standing of an item lasts when another item is visited. -/
theorem Standing.touches {items state : List Item} {count position : Nat} {item current : Item}
    (standing : Standing items count position item current)
    (here : state[position]? = some current)
    (other : position ≠ count)
    (visited : Item) :
    Standing items (count + 1) position item (touched state visited position current) where
  grows := standing.grows.trans (grows_touched state visited position current)
  kind := (kind_touched state visited position current).trans (standing.later other).kind
  waiting := by
    intro kind late
    have same := (standing.later other).waiting kind late
    rw [touched_extension here (by rw [same, kind]), same]

/-- Every item has its standing after any number of visits. -/
theorem standing_progress (items : List Item) (count : Nat) :
    ∀ position item, items[position]? = some item →
      ∃ current, (progress items count)[position]? = some current ∧
        Standing items count position item current := by
  induction count with
  | zero =>
      intro position item here
      refine ⟨item, here, Item.Grows.refl item, ?_, fun _ _ => rfl⟩
      simp [kindAfter]
  | succ count inductionHypothesis =>
      intro position item here
      obtain ⟨current, atPosition, stands⟩ := inductionHypothesis position item here
      rw [progress_succ]
      by_cases self : position = count
      · subst self
        refine ⟨_, getElem?_visit_self atPosition, ?_⟩
        exact stands.settles
          (baseIndex?_of_standing inductionHypothesis (length_progress items position) here)
          (exists_base? (List.mem_of_getElem? here))
      · cases atCount : (progress items count)[count]? with
        | none =>
            rw [value_visit_of_none atCount]
            exact ⟨current, atPosition, stands.later self⟩
        | some visited =>
            exact ⟨_, getElem?_visit_of_ne atCount atPosition self,
              stands.touches atPosition self visited⟩

theorem standing_of_progress {items : List Item} {count position : Nat} {item current : Item}
    (here : items[position]? = some item)
    (there : (progress items count)[position]? = some current) :
    Standing items count position item current := by
  obtain ⟨other, atPosition, stands⟩ := standing_progress items count position item here
  rw [there, Option.some_inj] at atPosition
  exact atPosition ▸ stands

/-- What is left after a number of visits stands in the place of a given item. -/
theorem exists_origin_progress {items : List Item} {count position : Nat} {current : Item}
    (there : (progress items count)[position]? = some current) :
    ∃ item, items[position]? = some item ∧ Standing items count position item current :=
  exists_origin_of_standing (standing_progress items count) (length_progress items count) there

/-- An extension that is visited finds the base of its name, unless it is the base itself. -/
theorem baseIndex?_progress {items : List Item} {count : Nat} {extension : Item}
    (here : items[count]? = some extension)
    (kind : extension.kind = .extension) :
    baseIndex? (progress items count) extension =
      if base? items extension.name = some count then none else base? items extension.name :=
  baseIndex?_of_standing (standing_progress items count) (length_progress items count) here kind

/-- An item that is no object now never was of another kind. -/
theorem Standing.kind_eq {count position : Nat} {item current : Item}
    (standing : Standing items count position item current)
    (kind : current.kind ≠ .object) :
    item.kind = current.kind := by
  rw [standing.kind] at kind ⊢
  unfold kindAfter at kind ⊢
  split at kind
  · exact absurd rfl kind
  · rename_i waits
    rw [if_neg waits]

/-- What a visit folds is an extension that no visit has changed, and it is folded into the base of
its name. -/
theorem base?_of_folded {items : List Item} {count base : Nat} {visited : Item}
    (visits : (progress items count)[count]? = some visited)
    (kind : visited.kind = .extension)
    (found : baseIndex? (progress items count) visited = some base) :
    items[count]? = some visited ∧ base? items visited.name = some base := by
  obtain ⟨item, here, stands⟩ := exists_origin_progress visits
  have isExtension := (stands.kind_eq (by simp [kind])).trans kind
  rw [← stands.waiting isExtension (Nat.le_refl count)] at here isExtension
  refine ⟨here, ?_⟩
  rw [baseIndex?_progress here isExtension] at found
  split at found
  · cases found
  · exact found

/-! ## Containment in the base -/

/-- Every extension that has been visited and is none of its name's base is contained in it. -/
theorem covers_progress (items : List Item) (count : Nat) {position base : Nat} {extension : Item}
    (here : items[position]? = some extension)
    (kind : extension.kind = .extension)
    (found : base? items extension.name = some base)
    (folded : base ≠ position)
    (visited : position < count) :
    ∃ current merged, (progress items count)[position]? = some current ∧
      (progress items count)[base]? = some merged ∧ merged.Covers current := by
  induction count with
  | zero => omega
  | succ count inductionHypothesis =>
      rw [progress_succ]
      by_cases self : position = count
      · -- The visit of the extension itself: the base absorbs it.
        subst self
        obtain ⟨current, atPosition, stands⟩ :=
          standing_progress items position position extension here
        have same := stands.waiting kind (Nat.le_refl position)
        subst same
        have search : baseIndex? (progress items position) current = some base := by
          rw [baseIndex?_progress here kind, found, if_neg (by simpa using folded)]
        obtain ⟨⟨target, atBase, _⟩, _⟩ := (findIdx?_eq_some_iff_first _ _ base).1 search
        refine ⟨_, _, getElem?_visit_self atPosition,
          getElem?_visit_of_ne atPosition atBase folded, ?_⟩
        rw [settled_extension kind, search, touched, if_pos ⟨kind, search⟩]
        exact Item.covers_absorb target _
      · -- A later visit: the extension stays, the base grows.
        obtain ⟨current, merged, atPosition, atBase, covers⟩ := inductionHypothesis (by omega)
        have stands := standing_of_progress here atPosition
        have currentKind : current.kind = .extension := by
          rw [stands.kind, kindAfter, if_neg, kind]
          rintro ⟨_, isBase, _⟩
          rw [found, Option.some_inj] at isBase
          exact folded isBase
        obtain ⟨grown, atGrown, grows⟩ := grows_visit (progress items count) count base atBase
        cases atCount : (progress items count)[count]? with
        | none =>
            rw [value_visit_of_none atCount]
            exact ⟨current, merged, atPosition, atBase, covers⟩
        | some item =>
            refine ⟨current, grown, ?_, atGrown, covers.grows grows⟩
            rw [getElem?_visit_of_ne atCount atPosition self,
              touched_extension atPosition currentKind]

/-! ## The merged items -/

/-- Merging keeps the names in order. -/
theorem names_merge (items : List Item) :
    (merge items).value.map Item.name = items.map Item.name := by
  rw [value_merge_eq_progress, names_progress]

/-- Every merged item stands in the place of a given item. -/
theorem exists_origin_merge {items : List Item} {position : Nat} {merged : Item}
    (there : (merge items).value[position]? = some merged) :
    ∃ item, items[position]? = some item ∧
      Standing items items.length position item merged := by
  rw [value_merge_eq_progress] at there
  exact exists_origin_progress there

/-- The kind of a merged item.  An extension becomes an object exactly if it is the first item of a
name that nothing but extensions has. -/
theorem kind_merged {items : List Item} {position : Nat} {item merged : Item}
    (here : items[position]? = some item)
    (standing : Standing items items.length position item merged) :
    (item.kind ≠ .extension → merged.kind = item.kind) ∧
      (item.kind = .extension → merged.kind = .object ∨ merged.kind = .extension) ∧
      (item.kind = .extension →
        (merged.kind = .object ↔
          (∀ other ∈ items, other.name = item.name → other.kind = .extension) ∧
            ∀ earlier < position, ∀ other, items[earlier]? = some other →
              other.name = item.name → other.kind ≠ .extension)) := by
  have bound := (List.getElem?_eq_some_iff.1 here).1
  have final : merged.kind =
      if item.kind = .extension ∧ base? items item.name = some position then .object
      else item.kind := by
    rw [standing.kind, kindAfter]
    simp only [bound, and_true]
  refine ⟨?_, ?_, ?_⟩
  · intro kind
    rw [final, if_neg fun all => kind all.1]
  · intro kind
    rw [final]
    split
    · exact Or.inl rfl
    · exact Or.inr kind
  · intro kind
    rw [← base?_eq_some_iff_orphan here kind, final]
    by_cases promoted : base? items item.name = some position
    · simp [kind, promoted]
    · simp [kind, promoted]

/-- The first merged item of a name that is no extension is the base of the name. -/
theorem findIdx?_defines_merge (items : List Item) (name : String) :
    (merge items).value.findIdx? (Item.defines name) = base? items name := by
  rw [value_merge_eq_progress]
  cases found : base? items name with
  | none =>
      rw [List.findIdx?_eq_none_iff]
      intro merged member
      by_contra defines
      rw [Bool.not_eq_false, Item.defines_iff] at defines
      have inNames := List.mem_map_of_mem (f := Item.name) member
      rw [names_progress, defines.1] at inNames
      obtain ⟨item, inItems, rfl⟩ := List.mem_map.1 inNames
      obtain ⟨base, isBase⟩ := exists_base? inItems
      rw [found] at isBase
      cases isBase
  | some base =>
      obtain ⟨first, atBase⟩ := exists_getElem?_of_base? found
      have inside := (List.getElem?_eq_some_iff.1 atBase).1
      rw [findIdx?_defines_of_standing (standing_progress items items.length)
        (length_progress items items.length) found atBase,
        if_neg fun late => absurd late.2 (by omega)]

/-- What is still an extension after merging is contained in the first item of its name that is
none. -/
theorem covers_merged {items : List Item} {position : Nat} {item merged : Item}
    (here : items[position]? = some item)
    (there : (merge items).value[position]? = some merged)
    (kind : merged.kind = .extension) :
    ∃ base, (merge items).value.find? (Item.defines item.name) = some base ∧
      base.Covers merged := by
  have bound := (List.getElem?_eq_some_iff.1 here).1
  obtain ⟨base, found⟩ := exists_base? (List.mem_of_getElem? here)
  rw [List.find?_eq_bind_findIdx?_getElem?, findIdx?_defines_merge, found]
  rw [value_merge_eq_progress] at there ⊢
  have stands := standing_of_progress here there
  have extension : item.kind = .extension := by
    by_contra different
    exact different (stands.kind.symm.trans kind ▸ (kindAfter_of_ne different _ _ _).symm)
  have folded : base ≠ position := by
    rintro rfl
    rw [stands.kind, kindAfter, if_pos ⟨extension, found, bound⟩] at kind
    cases kind
  obtain ⟨current, target, atCurrent, atBase, covers⟩ :=
    covers_progress items items.length here extension found folded bound
  rw [there, Option.some_inj] at atCurrent
  subst atCurrent
  exact ⟨target, atBase, covers⟩

/-- Merging keeps the number, the places and the names of the items.  Every item keeps its fields,
interfaces and tags in front of what it takes over.  Only orphaned extensions change their kind, and
what is still an extension at the end is contained in the first item of its name that is none. -/
theorem merge_keeps_items (items : List Item) :
    (merge items).value.length = items.length ∧
      ∀ (position : Nat) (item : Item), items[position]? = some item →
        ∃ merged : Item, (merge items).value[position]? = some merged ∧
          merged.name = item.name ∧
          (item.kind ≠ .extension → merged.kind = item.kind) ∧
          (item.kind = .extension → merged.kind = .object ∨ merged.kind = .extension) ∧
          (item.kind = .extension →
            (merged.kind = .object ↔
              (∀ other ∈ items, other.name = item.name → other.kind = .extension) ∧
                ∀ earlier < position, ∀ other, items[earlier]? = some other →
                  other.name = item.name → other.kind ≠ .extension)) ∧
          item.fields <+: merged.fields ∧
          item.interfaces <+: merged.interfaces ∧
          item.tags <+: merged.tags ∧
          (merged.kind = .extension →
            ∃ base, (merge items).value.find? (Item.defines item.name) = some base ∧
              (∀ field ∈ merged.fields, base.hasField field.name = true) ∧
              (∀ tag ∈ merged.tags, tag ∈ base.tags) ∧
              ∀ interface ∈ merged.interfaces, interface ∈ base.interfaces) := by
  refine ⟨by rw [value_merge_eq_progress, length_progress], ?_⟩
  intro position item here
  obtain ⟨merged, there, stands⟩ := standing_progress items items.length position item here
  rw [← value_merge_eq_progress] at there
  obtain ⟨unchanged, possible, promoted⟩ := kind_merged here stands
  refine ⟨merged, there, stands.grows.name, unchanged, possible, promoted, stands.grows.fields,
    stands.grows.interfaces, stands.grows.tags, ?_⟩
  intro kind
  obtain ⟨base, found, covers⟩ := covers_merged here there kind
  exact ⟨base, found, covers.fields, covers.tags, covers.interfaces⟩

/-- Two orphans of one name that implement an interface, which has an extension of its own. -/
def orphanedItems : List Item :=
  [{ name := "Node", kind := .extension, fields := [{ name := "rank" }], tags := ["entity"] },
   { name := "Node", kind := .interface, fields := [{ name := "id" }] },
   { name := "User", kind := .extension, interfaces := ["Node"] },
   { name := "User", kind := .extension, interfaces := ["Node"], tags := ["entity"] }]

/-- The second orphan is contained in the first, with the field it has from an extension of the
interface. -/
theorem merge_keeps_orphanedItems :
    ∃ item merged base : Item, orphanedItems[3]? = some item ∧
      (merge orphanedItems).value[3]? = some merged ∧
      item.kind = .extension ∧ merged.kind = .extension ∧
      merged.hasField "rank" = true ∧
      (merge orphanedItems).value.find? (Item.defines item.name) = some base ∧
      (∀ field ∈ merged.fields, base.hasField field.name = true) ∧
      (∀ tag ∈ merged.tags, tag ∈ base.tags) ∧
      ∀ interface ∈ merged.interfaces, interface ∈ base.interfaces := by
  obtain ⟨_, kept⟩ := merge_keeps_items orphanedItems
  obtain ⟨merged, there, _, _, _, _, _, _, _, contained⟩ :=
    kept 3 { name := "User", kind := .extension, interfaces := ["Node"], tags := ["entity"] } rfl
  have final : (merge orphanedItems).value[3]? = some
      { name := "User", kind := .extension, fields := [{ name := "id" }, { name := "rank" }],
        interfaces := ["Node"], tags := ["entity"] } := by
    decide
  rw [final, Option.some_inj] at there
  subst there
  obtain ⟨base, found, fields, tags, interfaces⟩ := contained rfl
  exact ⟨_, _, base, rfl, final, rfl, rfl, by decide, found, fields, tags, interfaces⟩

end Merge

end SchemaDecl
