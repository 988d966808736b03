import SchemaDecl.Proofs.Merge.ClosedForm
import SchemaDecl.Proofs.Merge.Restriction

/-!
# Absorbing extensions ahead of time

Where neither the base of a name nor its extensions implement anything, the base can absorb all its
extensions before merging, which can then be left out: every other item ends as it does with them.
`ahead` is a state between the visits in which the base has absorbed the extensions still to come.
-/

namespace SchemaDecl

namespace Merge

/-! ## Changing an item that implements nothing -/

theorem completed_of_interfaces_eq_nil {item : Item} (bare : item.interfaces = [])
    (items : List Item) :
    completed items item = item := by
  rw [completed, bare, inherited_nil, Item.appendMissing, Field.appendMissing_nil]

/-- The visit of an object or an enum that implements nothing changes nothing. -/
theorem settled_of_interfaces_eq_nil {item : Item} (bare : item.interfaces = [])
    (kind : item.kind ≠ .extension)
    (items : List Item) :
    settled items item = item := by
  unfold settled
  split
  · exact completed_of_interfaces_eq_nil bare items
  · contradiction
  · rfl

theorem kind_of_settled {items : List Item} {item : Item}
    (kind : (settled items item).kind = .extension) :
    item.kind = .extension := by
  by_contra other
  exact other ((kind_settled_of_ne other items).symm.trans kind)

/-- An object or an enum that implements nothing changes in what no visit looks up. -/
structure Unnoticed (items : List Item) (base : Nat) (first : Item) (change : Item → Item) :
    Prop where
  here : items[base]? = some first
  notInterface : first.kind ≠ .interface
  notExtension : first.kind ≠ .extension
  bare : first.interfaces = []
  name : (change first).name = first.name
  kind : (change first).kind = first.kind
  interfaces : (change first).interfaces = first.interfaces

namespace Unnoticed

variable {items : List Item} {base : Nat} {first : Item} {change : Item → Item}

theorem here_modify (unnoticed : Unnoticed items base first change) :
    (items.modify base change)[base]? = some (change first) := by
  simp [unnoticed.here]

theorem interface?_modify (unnoticed : Unnoticed items base first change) (name : String) :
    interface? (items.modify base change) name = interface? items name := by
  apply interface?_congr (List.length_modify change items base)
  intro position item there
  by_cases same : base = position
  · subst same
    rw [unnoticed.here, Option.some_inj] at there
    subst there
    refine ⟨change first, unnoticed.here_modify, unnoticed.name, by rw [unnoticed.kind], ?_⟩
    intro kind
    exact absurd kind unnoticed.notInterface
  · exact ⟨item, by simp [there, same], rfl, Iff.rfl, fun _ => rfl⟩

theorem completed_modify (unnoticed : Unnoticed items base first change) (item : Item) :
    completed (items.modify base change) item = completed items item := by
  simp only [completed, inherited, unnoticed.interface?_modify]

theorem baseIndex?_modify (unnoticed : Unnoticed items base first change) (item : Item) :
    baseIndex? (items.modify base change) item = baseIndex? items item := by
  refine baseIndex?_congr ?_ rfl rfl
  apply List.ext_getElem?
  intro position
  rw [List.getElem?_map, List.getElem?_map]
  by_cases same : base = position
  · subst same
    simp [unnoticed.here, unnoticed.name, unnoticed.kind]
  · simp [same]

theorem settled_modify (unnoticed : Unnoticed items base first change) (item : Item) :
    settled (items.modify base change) item = settled items item := by
  simp only [settled, unnoticed.completed_modify, unnoticed.baseIndex?_modify]

theorem touched_modify (unnoticed : Unnoticed items base first change) (visited : Item)
    (position : Nat) (item : Item) :
    touched (items.modify base change) visited position item =
      touched items visited position item := by
  simp only [touched, unnoticed.completed_modify, unnoticed.baseIndex?_modify]

/-- The visit of the item that changes touches no other item, before the change and after it. -/
theorem value_visit_modify_self (unnoticed : Unnoticed items base first change) :
    (visit (items.modify base change) base).value =
      (visit items base).value.modify base change := by
  have changedKind : (change first).kind ≠ .extension := by
    rw [unnoticed.kind]
    exact unnoticed.notExtension
  have settledFirst : settled items first = first :=
    settled_of_interfaces_eq_nil unnoticed.bare unnoticed.notExtension items
  have settledChanged : settled items (change first) = change first :=
    settled_of_interfaces_eq_nil (unnoticed.interfaces.trans unnoticed.bare) changedKind items
  have still {visited : Item} (kind : visited.kind ≠ .extension) (position : Nat) (item : Item) :
      touched items visited position item = item := by
    apply if_neg
    intro folds
    exact kind folds.1
  apply List.ext_getElem?
  intro position
  rw [List.getElem?_modify, value_visit unnoticed.here, List.getElem?_mapIdx,
    value_visit unnoticed.here_modify, List.getElem?_mapIdx, List.getElem?_modify]
  by_cases same : base = position
  · subst same
    simp [unnoticed.here, unnoticed.settled_modify, settledFirst, settledChanged]
  · simp [same, Ne.symm same, unnoticed.touched_modify, still changedKind,
      still unnoticed.notExtension]

/-- The change can be made before a visit or after it, unless the visit folds an extension into the
item that changes. -/
theorem value_visit_modify (unnoticed : Unnoticed items base first change) {index : Nat}
    {visited : Item}
    (here : items[index]? = some visited)
    (apart : visited.kind = .extension → baseIndex? items visited ≠ some base) :
    (visit (items.modify base change) index).value =
      (visit items index).value.modify base change := by
  by_cases self : base = index
  · subst self
    exact unnoticed.value_visit_modify_self
  · have untouched (item : Item) : touched items visited base item = item := by
      apply if_neg
      intro folds
      exact apart folds.1 folds.2
    have there : (items.modify base change)[index]? = some visited := by simp [here, self]
    apply List.ext_getElem?
    intro position
    rw [List.getElem?_modify, value_visit here, List.getElem?_mapIdx, value_visit there,
      List.getElem?_mapIdx, List.getElem?_modify]
    by_cases same : base = position
    · subst same
      simp [unnoticed.here, self, unnoticed.touched_modify, untouched]
    · simp [same, unnoticed.settled_modify, unnoticed.touched_modify]

end Unnoticed

/-! ## Plain names -/

/-- The base of a name is an object or an enum, and neither it nor its extensions implement
anything. -/
structure Plain (items : List Item) (name : String) (base : Nat) (first : Item) : Prop where
  here : items[base]? = some first
  found : items.findIdx? (Item.defines name) = some base
  kind : first.kind ≠ .interface
  bare : first.interfaces = []
  bareExtensions : ∀ extension ∈ items, extension.amends name = true → extension.interfaces = []

namespace Plain

variable {items : List Item} {name : String} {base : Nat} {first : Item}

theorem first_defines (plain : Plain items name base first) :
    first.name = name ∧ first.kind ≠ .extension :=
  (Item.defines_iff name first).1 (holds_of_findIdx? plain.found plain.here)

theorem isBase (plain : Plain items name base first) : base? items name = some base := by
  rw [base?, plain.found, Option.some_or]

/-- Extensions of the name find the base in every state. -/
theorem baseIndex?_progress (plain : Plain items name base first) {extension : Item}
    (amends : extension.amends name = true)
    (count : Nat) :
    baseIndex? (progress items count) extension = some base := by
  obtain ⟨sameName, kind⟩ := (Item.amends_iff name extension).1 amends
  rw [baseIndex?_extension _ kind, sameName, findIdx?_defines_of_standing
    (standing_progress items count) (length_progress items count) plain.isBase plain.here]
  exact if_neg fun late => plain.first_defines.2 late.1

/-- Extensions of the name stay as they are. -/
theorem extension_progress (plain : Plain items name base first) {position : Nat}
    {extension : Item}
    (here : items[position]? = some extension)
    (amends : extension.amends name = true)
    (count : Nat) :
    (progress items count)[position]? = some extension := by
  have kind := ((Item.amends_iff name extension).1 amends).2
  have bare := plain.bareExtensions extension (List.mem_of_getElem? here) amends
  induction count with
  | zero => exact here
  | succ count inductionHypothesis =>
      rw [progress_succ]
      by_cases self : position = count
      · subst self
        rw [getElem?_visit_self inductionHypothesis, settled_extension kind,
          plain.baseIndex?_progress amends position, Option.isSome_some, if_pos rfl,
          completed_of_interfaces_eq_nil bare]
      · cases visits : (progress items count)[count]? with
        | none => rw [value_visit_of_none visits, inductionHypothesis]
        | some visited =>
            rw [getElem?_visit_of_ne visits inductionHypothesis self,
              touched_extension inductionHypothesis kind]

/-- Visits keep apart what is an extension of the name. -/
theorem amends_of_standing (plain : Plain items name base first) {count position : Nat}
    {item current : Item}
    (here : items[position]? = some item)
    (standing : Standing items count position item current) :
    current.amends name = item.amends name := by
  rw [Bool.eq_iff_iff, Item.amends_iff, Item.amends_iff, standing.grows.name, standing.kind]
  refine and_congr_right fun sameName => ?_
  rw [kindAfter, if_neg]
  rintro ⟨kind, found, _⟩
  rw [sameName, plain.isBase, Option.some_inj] at found
  subst found
  rw [plain.here, Option.some_inj] at here
  exact plain.first_defines.2 (here ▸ kind)

/-- The item at the place of an extension of the name is that extension. -/
theorem eq_of_amends_progress (plain : Plain items name base first) {count position : Nat}
    {current : Item}
    (there : (progress items count)[position]? = some current)
    (amends : current.amends name = true) :
    items[position]? = some current := by
  obtain ⟨item, here, stands⟩ := exists_origin_progress there
  have same := plain.extension_progress here (plain.amends_of_standing here stands ▸ amends) count
  rw [there] at same
  rw [here, ← same]

/-- The base of the name goes on to implement nothing. -/
theorem base_progress (plain : Plain items name base first) (count : Nat) :
    ∃ current, (progress items count)[base]? = some current ∧ current.name = name ∧
      current.kind = first.kind ∧ current.interfaces = [] := by
  induction count with
  | zero => exact ⟨first, plain.here, plain.first_defines.1, rfl, plain.bare⟩
  | succ count inductionHypothesis =>
      obtain ⟨current, atBase, sameName, sameKind, bare⟩ := inductionHypothesis
      rw [progress_succ]
      by_cases self : base = count
      · subst self
        have settles := settled_of_interfaces_eq_nil bare (sameKind ▸ plain.first_defines.2)
          (progress items base)
        exact ⟨current, by rw [getElem?_visit_self atBase, settles], sameName, sameKind, bare⟩
      · cases visits : (progress items count)[count]? with
        | none =>
            rw [value_visit_of_none visits]
            exact ⟨current, atBase, sameName, sameKind, bare⟩
        | some visited =>
            refine ⟨_, getElem?_visit_of_ne visits atBase self,
              (grows_touched _ _ _ current).name.trans sameName,
              (kind_touched _ _ _ current).trans sameKind, ?_⟩
            unfold touched
            split
            · rename_i folds
              have visitedName := (kind_of_baseIndex? folds.2 atBase).1.symm.trans sameName
              have amends := (Item.amends_iff name visited).2 ⟨visitedName, folds.1⟩
              have member := List.mem_of_getElem? (plain.eq_of_amends_progress visits amends)
              have visitedBare := plain.bareExtensions visited member amends
              rw [completed_of_interfaces_eq_nil visitedBare, Item.absorb, bare, visitedBare]
              rfl
            · exact bare

end Plain

/-! ## The state ahead of the visits -/

/-- The item with all of some extensions absorbed. -/
def absorbing (extensions : List Item) (item : Item) : Item :=
  extensions.foldl Item.absorb item

@[simp] theorem name_absorbing (extensions : List Item) (item : Item) :
    (absorbing extensions item).name = item.name := by
  rw [absorbing, Item.foldl_absorb]

@[simp] theorem kind_absorbing (extensions : List Item) (item : Item) :
    (absorbing extensions item).kind = item.kind := by
  rw [absorbing, Item.foldl_absorb]

theorem interfaces_absorbing {extensions : List Item}
    (bare : ∀ extension ∈ extensions, extension.interfaces = [])
    (item : Item) :
    (absorbing extensions item).interfaces = item.interfaces := by
  rw [absorbing, Item.foldl_absorb]
  change item.interfaces ++ extensions.flatMap Item.interfaces = item.interfaces
  rw [List.flatMap_eq_nil_iff.2 bare, List.append_nil]

/-- The items after a number of visits, with the extensions of a name that are still to be visited
absorbed already. -/
def ahead (items : List Item) (name : String) (base count : Nat) : List Item :=
  (progress items count).modify base (absorbing (extensionsOf (items.drop count) name))

namespace Plain

variable {items : List Item} {name : String} {base : Nat} {first : Item}

theorem bare_of_mem_extensionsOf (plain : Plain items name base first) (count : Nat) :
    ∀ extension ∈ extensionsOf (items.drop count) name, extension.interfaces = [] := by
  intro extension member
  obtain ⟨inPart, amends⟩ := List.mem_filter.1 member
  exact plain.bareExtensions extension (List.mem_of_mem_drop inPart) amends

/-- The visit of an extension of the name is what the state was ahead of. -/
theorem ahead_succ_of_amends (plain : Plain items name base first) {count : Nat} {visited : Item}
    (here : items[count]? = some visited)
    (amends : visited.amends name = true) :
    ahead items name base (count + 1) = ahead items name base count := by
  obtain ⟨bound, atCount⟩ := List.getElem?_eq_some_iff.1 here
  have visits := plain.extension_progress here amends count
  have bare := plain.bareExtensions visited (List.mem_of_getElem? here) amends
  have kind := ((Item.amends_iff name visited).1 amends).2
  have found := plain.baseIndex?_progress amends count
  have folded : progress items (count + 1) =
      (progress items count).modify base (·.absorb visited) := by
    rw [progress_succ, value_visit visits]
    apply List.ext_getElem?
    intro position
    rw [List.getElem?_mapIdx, List.getElem?_modify]
    by_cases self : position = count
    · subst self
      have notBase : base ≠ position := by
        rintro rfl
        exact (kind_of_baseIndex? found visits).2 rfl
      simp [visits, notBase, settled_extension kind, found, completed_of_interfaces_eq_nil bare]
    · by_cases isBase : base = position
      · subst isBase
        simp [self, touched, kind, found, completed_of_interfaces_eq_nil bare]
      · simp [self, isBase, touched, found]
  have next : extensionsOf (items.drop count) name =
      visited :: extensionsOf (items.drop (count + 1)) name := by
    rw [List.drop_eq_getElem_cons bound, atCount, extensionsOf, List.filter_cons_of_pos amends,
      extensionsOf]
  rw [ahead, ahead, folded, next, List.modify_modify_eq]
  rfl

/-- Another visit takes the state ahead to the next. -/
theorem ahead_succ_of_not_amends (plain : Plain items name base first) {count : Nat}
    {visited : Item}
    (here : items[count]? = some visited)
    (other : visited.amends name = false) :
    ahead items name base (count + 1) = (visit (ahead items name base count) count).value := by
  obtain ⟨bound, atCount⟩ := List.getElem?_eq_some_iff.1 here
  have same : extensionsOf (items.drop count) name =
      extensionsOf (items.drop (count + 1)) name := by
    rw [List.drop_eq_getElem_cons bound, atCount, extensionsOf,
      List.filter_cons_of_neg (by simp [other]), extensionsOf]
  obtain ⟨current, visits, stands⟩ := standing_progress items count count visited here
  obtain ⟨target, atBase, sameName, sameKind, bare⟩ := plain.base_progress count
  have unnoticed : Unnoticed (progress items count) base target
      (absorbing (extensionsOf (items.drop (count + 1)) name)) :=
    { here := atBase
      notInterface := sameKind ▸ plain.kind
      notExtension := sameKind ▸ plain.first_defines.2
      bare
      name := name_absorbing _ target
      kind := kind_absorbing _ target
      interfaces := interfaces_absorbing (plain.bare_of_mem_extensionsOf (count + 1)) target }
  rw [ahead, ahead, same, progress_succ]
  symm
  apply unnoticed.value_visit_modify visits
  intro kind found
  have currentName := (kind_of_baseIndex? found atBase).1.symm.trans sameName
  have amends := (Item.amends_iff name current).2 ⟨currentName, kind⟩
  rw [plain.amends_of_standing here stands, other] at amends
  cases amends

/-- Visits keep the places of the extensions of the name. -/
theorem map_amends_ahead (plain : Plain items name base first) (count : Nat) :
    (ahead items name base count).map (Item.amends name) = items.map (Item.amends name) := by
  apply List.ext_getElem?
  intro position
  rw [List.getElem?_map, List.getElem?_map, ahead, List.getElem?_modify]
  cases here : items[position]? with
  | none =>
      have beyond : (progress items count)[position]? = none := by
        rw [List.getElem?_eq_none_iff] at here ⊢
        rwa [length_progress]
      simp [beyond]
  | some item =>
      obtain ⟨current, there, stands⟩ := standing_progress items count position item here
      have same := plain.amends_of_standing here stands
      by_cases isBase : base = position
      · simpa [there, isBase, Item.amends] using same
      · simpa [there, isBase] using same

/-- Whether the extensions of a name are left out before or after the visit of another item makes no
difference. -/
theorem filter_visit_of_not_amends {state : List Item} {count : Nat} {visited : Item}
    (visits : state[count]? = some visited)
    (other : visited.amends name = false) :
    (visit state count).value.filter (fun item => !item.amends name) =
      (visit (state.filter fun item => !item.amends name)
        (rank (fun item => !item.amends name) state count)).value := by
  apply filter_value_visit visits (by simp [other])
  · -- Interfaces and bases are no extensions.
    constructor
    · intro interface _ kind _
      simp [Item.amends, kind]
    · intro _ definer _ _ kind
      simp [Item.amends, kind]
  · rw [Bool.not_eq_true', ← Bool.not_eq_true, Item.amends_iff]
    rintro ⟨sameName, kind⟩
    have amendsItself := (Item.amends_iff name visited).2
      ⟨(grows_settled _ visited).name.symm.trans sameName, kind_of_settled kind⟩
    rw [other] at amendsItself
    cases amendsItself
  · intro position item _
    rw [Item.amends, Item.amends, kind_touched, (grows_touched _ _ _ item).name]

/-- The state ahead has extensions of the name where the given items have them. -/
theorem exists_visited_ahead (plain : Plain items name base first) {count : Nat} {item : Item}
    (here : items[count]? = some item) :
    ∃ current, (ahead items name base count)[count]? = some current ∧
      current.amends name = item.amends name := by
  have atCount := congrArg (·[count]?) (plain.map_amends_ahead count)
  simpa only [List.getElem?_map, here, Option.map_some, Option.map_eq_some_iff] using atCount

theorem rank_ahead (plain : Plain items name base first) (count place : Nat) :
    rank (fun item => !item.amends name) (ahead items name base count) place =
      rank (fun item => !item.amends name) items place := by
  apply rank_congr
  have negated := congrArg (List.map (!·)) (plain.map_amends_ahead count)
  simpa only [List.map_map, Function.comp_def] using negated

/-- Without the extensions of the name, the state ahead develops from the start on like the merge of
what is left. -/
theorem filter_ahead (plain : Plain items name base first) {count : Nat}
    (bound : count ≤ items.length) :
    (ahead items name base count).filter (fun item => !item.amends name) =
      progress ((ahead items name base 0).filter fun item => !item.amends name)
        (rank (fun item => !item.amends name) items count) := by
  induction count with
  | zero => rfl
  | succ count inductionHypothesis =>
      have here := List.getElem?_eq_getElem (by omega : count < items.length)
      have reached := inductionHypothesis (by omega)
      rw [rank_succ here]
      by_cases amends : items[count].amends name = true
      · rw [plain.ahead_succ_of_amends here amends, reached, if_neg (by simp [amends]),
          Nat.add_zero]
      · rw [Bool.not_eq_true] at amends
        obtain ⟨current, visits, same⟩ := plain.exists_visited_ahead here
        rw [plain.ahead_succ_of_not_amends here amends, if_pos (by simp [amends]),
          progress_succ, ← reached, ← plain.rank_ahead count count,
          filter_visit_of_not_amends visits (same.trans amends)]

/-- The base of a plain name can absorb its extensions before merging, and they can be left out. -/
theorem filter_merge (plain : Plain items name base first) :
    (merge items).value.filter (fun item => !item.amends name) =
      (merge ((items.modify base (absorbing (extensionsOf items name))).filter
        fun item => !item.amends name)).value := by
  have start : ahead items name base 0 =
      items.modify base (absorbing (extensionsOf items name)) := rfl
  have finish : ahead items name base items.length = progress items items.length := by
    rw [ahead, List.drop_length]
    exact List.modify_id base _
  have sameLength : ((ahead items name base 0).filter fun item => !item.amends name).length =
      rank (fun item => !item.amends name) items items.length := by
    have lengths : (ahead items name base 0).length = items.length := by
      simpa using congrArg List.length (plain.map_amends_ahead 0)
    rw [← rank_length, plain.rank_ahead, lengths]
  rw [value_merge_eq_progress, value_merge_eq_progress, ← start, sameLength, ← finish,
    plain.filter_ahead (Nat.le_refl _)]

end Plain

end Merge

end SchemaDecl
