import SchemaDecl.Proofs.Merge.Restriction
import SchemaDecl.Proofs.Merge.Retention

/-!
# Independent parts

Two parts of a list of items are independent if no name is shared between them and no item of one
part implements an interface named like an item of the other.  Visits keep parts independent, since
an item takes over interfaces from items of its own name only.  So every part is merged as if it
stood alone, in whatever order the items of the two parts come.
-/

namespace SchemaDecl

/-! ## Interleavings -/

/-- The whole consists of the elements of two lists, each in its order.  The sides tell of every
element of the whole whether it comes from the left list. -/
inductive Interleaves {α : Type} : List Bool → List α → List α → List α → Prop
  | nil : Interleaves [] [] [] []
  | left {sides : List Bool} {left right whole : List α} (element : α)
      (rest : Interleaves sides left right whole) :
      Interleaves (true :: sides) (element :: left) right (element :: whole)
  | right {sides : List Bool} {left right whole : List α} (element : α)
      (rest : Interleaves sides left right whole) :
      Interleaves (false :: sides) left (element :: right) (element :: whole)

namespace Interleaves

variable {α : Type} {keep : α → Bool}

/-- A list consists of the elements that are kept and those that are not. -/
theorem of_filter (whole : List α) :
    Interleaves (whole.map keep) (whole.filter keep) (whole.filter fun element => !keep element)
      whole := by
  induction whole with
  | nil => exact .nil
  | cons element rest inductionHypothesis =>
      rw [List.map_cons]
      cases kept : keep element with
      | true =>
          rw [List.filter_cons_of_pos kept, List.filter_cons_of_neg (by simp [kept])]
          exact .left element inductionHypothesis
      | false =>
          rw [List.filter_cons_of_neg (by simp [kept]), List.filter_cons_of_pos (by simp [kept])]
          exact .right element inductionHypothesis

/-- A test that tells the two lists apart finds them in the whole. -/
theorem eq_filter {sides : List Bool} {left right whole : List α}
    (interleaves : Interleaves sides left right whole)
    (keepsLeft : ∀ element ∈ left, keep element = true)
    (dropsRight : ∀ element ∈ right, keep element = false) :
    sides = whole.map keep ∧ left = whole.filter keep ∧
      right = whole.filter fun element => !keep element := by
  induction interleaves with
  | nil => exact ⟨rfl, rfl, rfl⟩
  | left element _ inductionHypothesis =>
      rw [List.forall_mem_cons] at keepsLeft
      obtain ⟨kept, keepsRest⟩ := keepsLeft
      obtain ⟨sameSides, sameLeft, sameRight⟩ := inductionHypothesis keepsRest dropsRight
      rw [List.map_cons, List.filter_cons_of_pos kept, List.filter_cons_of_neg (by simp [kept]),
        kept, ← sameSides, ← sameLeft, ← sameRight]
      exact ⟨rfl, rfl, rfl⟩
  | right element _ inductionHypothesis =>
      rw [List.forall_mem_cons] at dropsRight
      obtain ⟨dropped, dropsRest⟩ := dropsRight
      obtain ⟨sameSides, sameLeft, sameRight⟩ := inductionHypothesis keepsLeft dropsRest
      rw [List.map_cons, List.filter_cons_of_neg (by simp [dropped]),
        List.filter_cons_of_pos (by simp [dropped]), dropped, ← sameSides, ← sameLeft, ← sameRight]
      exact ⟨rfl, rfl, rfl⟩

end Interleaves

namespace Merge

/-! ## Parts -/

/-- An item that implements an interface is on the side of all items with the interface's name. -/
def Parted (inside : String → Bool) (items : List Item) : Prop :=
  ∀ item ∈ items, ∀ other ∈ items, other.name ∈ item.interfaces →
    inside other.name = inside item.name

variable {inside : String → Bool} {items : List Item}

/-- The sides can be taken the other way round. -/
theorem Parted.not (parted : Parted inside items) :
    Parted (fun name => !inside name) items := by
  intro item member other otherMember implemented
  exact congrArg (!·) (parted item member other otherMember implemented)

/-- Every interface of an item after a visit was implemented by an item of its name before. -/
theorem exists_implementing_of_visit {index position : Nat} {item current : Item} {name : String}
    (here : items[position]? = some item)
    (there : (visit items index).value[position]? = some current)
    (implemented : name ∈ current.interfaces) :
    ∃ source ∈ items, source.name = item.name ∧ name ∈ source.interfaces := by
  have member := List.mem_of_getElem? here
  cases visits : items[index]? with
  | none =>
      rw [value_visit_of_none visits, here, Option.some_inj] at there
      exact ⟨item, member, rfl, there ▸ implemented⟩
  | some visited =>
      by_cases self : position = index
      · subst self
        rw [getElem?_visit_self here, Option.some_inj] at there
        rw [← there, interfaces_settled] at implemented
        exact ⟨item, member, rfl, implemented⟩
      · rw [getElem?_visit_of_ne visits here self, Option.some_inj] at there
        rw [← there] at implemented
        unfold touched at implemented
        split at implemented
        · rename_i folds
          -- The visited extension has the name of its base.
          rcases List.mem_append.1 implemented with own | taken
          · exact ⟨item, member, rfl, own⟩
          · exact ⟨visited, List.mem_of_getElem? visits, (kind_of_baseIndex? folds.2 here).1.symm,
              taken⟩
        · exact ⟨item, member, rfl, implemented⟩

/-- Visits keep parts apart. -/
theorem Parted.visit (parted : Parted inside items) (index : Nat) :
    Parted inside (visit items index).value := by
  have origin {current : Item} (member : current ∈ (Merge.visit items index).value) :
      ∃ item ∈ items, item.name = current.name ∧ ∀ name ∈ current.interfaces,
        ∃ source ∈ items, source.name = item.name ∧ name ∈ source.interfaces := by
    obtain ⟨position, there⟩ := List.mem_iff_getElem?.1 member
    have bound := (List.getElem?_eq_some_iff.1 there).1
    rw [length_value_visit] at bound
    have here := List.getElem?_eq_getElem bound
    obtain ⟨grown, atPosition, grows⟩ := grows_visit items index position here
    rw [there, Option.some_inj] at atPosition
    refine ⟨_, List.getElem_mem bound, atPosition ▸ grows.name.symm, ?_⟩
    intro name implemented
    exact exists_implementing_of_visit here there implemented
  intro current member other otherMember implemented
  obtain ⟨item, _, sameName, implements⟩ := origin member
  obtain ⟨interface, interfaceMember, sameInterface, _⟩ := origin otherMember
  rw [← sameInterface] at implemented ⊢
  obtain ⟨source, sourceMember, sourceName, named⟩ := implements _ implemented
  rw [parted source sourceMember interface interfaceMember named, sourceName, sameName]

theorem Parted.progress (parted : Parted inside items) (count : Nat) :
    Parted inside (progress items count) := by
  induction count with
  | zero => exact parted
  | succ count inductionHypothesis =>
      rw [progress_succ]
      exact inductionHypothesis.visit count

/-! ## Visits in a part -/

/-- A visit looks up items of the part of the visited item only. -/
theorem Parted.reaches (parted : Parted inside items) {visited : Item}
    (member : visited ∈ items)
    (kept : inside visited.name = true) :
    Reaches (fun item => inside item.name) items visited where
  interfaces := by
    intro interface interfaceMember _ implemented
    rw [parted visited member interface interfaceMember implemented, kept]
  bases := by
    intro _ base _ sameName _
    rw [sameName, kept]

/-- The visit of an item of the other part changes nothing in a part. -/
theorem filter_value_visit_of_not_inside {index : Nat} {visited : Item}
    (here : items[index]? = some visited)
    (outside : inside visited.name = false) :
    ((visit items index).value.filter fun item => inside item.name) =
      items.filter fun item => inside item.name := by
  rw [value_visit here]
  apply filter_mapIdx_eq_filter
  · intro position item there
    split
    · rw [(grows_settled items item).name]
    · rw [(grows_touched items visited position item).name]
  · intro position item there kept
    have other : position ≠ index := by
      rintro rfl
      rw [here, Option.some_inj] at there
      rw [there, kept] at outside
      cases outside
    rw [if_neg other]
    apply if_neg
    intro folds
    rw [← (kind_of_baseIndex? folds.2 there).1, kept] at outside
    cases outside

/-- The visit of an item of a part does the same where the part stands alone. -/
theorem Parted.filter_value_visit_of_inside (parted : Parted inside items) {index : Nat}
    {visited : Item}
    (here : items[index]? = some visited)
    (kept : inside visited.name = true) :
    ((Merge.visit items index).value.filter fun item => inside item.name) =
      (Merge.visit (items.filter fun item => inside item.name)
        (rank (fun item => inside item.name) items index)).value := by
  apply filter_value_visit here kept
  · exact parted.reaches (List.mem_of_getElem? here) kept
  · rw [(grows_settled items visited).name, kept]
  · intro position item _
    rw [(grows_touched items visited position item).name]

/-- Visits keep the ranks within a part. -/
theorem rank_name_progress (inside : String → Bool) (items : List Item) (count place : Nat) :
    rank (fun item => inside item.name) (Merge.progress items count) place =
      rank (fun item => inside item.name) items place := by
  have through (list : List Item) :
      list.map (fun item => inside item.name) = (list.map Item.name).map inside := by
    rw [List.map_map]
    rfl
  apply rank_congr
  rw [through, through, names_progress]

/-- After any number of visits, a part is what the visits of its own items make of it. -/
theorem Parted.filter_progress (parted : Parted inside items) {count : Nat}
    (bound : count ≤ items.length) :
    ((Merge.progress items count).filter fun item => inside item.name) =
      Merge.progress (items.filter fun item => inside item.name)
        (rank (fun item => inside item.name) items count) := by
  induction count with
  | zero => rfl
  | succ count inductionHypothesis =>
      have here := List.getElem?_eq_getElem (by omega : count < items.length)
      have reached := inductionHypothesis (by omega)
      obtain ⟨current, atCount, grows⟩ := grows_progress items count count here
      rw [progress_succ, rank_succ here]
      by_cases kept : inside items[count].name = true
      · have currentKept : inside current.name = true := by rw [grows.name, kept]
        rw [if_pos kept, progress_succ, ← reached, ← rank_name_progress inside items count count,
          (parted.progress count).filter_value_visit_of_inside atCount currentKept]
      · rw [Bool.not_eq_true] at kept
        have outside : inside current.name = false := by rw [grows.name, kept]
        rw [filter_value_visit_of_not_inside atCount outside, reached, if_neg (by simp [kept]),
          Nat.add_zero]

/-- A part is merged as if it stood alone. -/
theorem Parted.filter_merge (parted : Parted inside items) :
    ((merge items).value.filter fun item => inside item.name) =
      (merge (items.filter fun item => inside item.name)).value := by
  rw [value_merge_eq_progress, value_merge_eq_progress, parted.filter_progress (Nat.le_refl _),
    rank_length]

/-! ## Two parts -/

/-- No item of one list has the name of an item of the other or implements an interface of that
name. -/
def Apart (left right : List Item) : Prop :=
  ∀ first ∈ left, ∀ second ∈ right,
    first.name ≠ second.name ∧ second.name ∉ first.interfaces ∧ first.name ∉ second.interfaces

instance (left right : List Item) : Decidable (Apart left right) :=
  inferInstanceAs (Decidable (∀ first ∈ left, ∀ second ∈ right,
    first.name ≠ second.name ∧ second.name ∉ first.interfaces ∧ first.name ∉ second.interfaces))

/-- Two independent lists are the parts of any list that they make up. -/
theorem Apart.exists_parted {sides : List Bool} {left right whole : List Item}
    (apart : Apart left right)
    (interleaves : Interleaves sides left right whole) :
    ∃ inside : String → Bool, Parted inside whole ∧
      sides = (whole.map Item.name).map inside ∧
      left = (whole.filter fun item => inside item.name) ∧
      right = whole.filter fun item => !inside item.name := by
  have keepsLeft : ∀ item ∈ left, decide (item.name ∈ left.map Item.name) = true := by
    intro item member
    exact decide_eq_true (List.mem_map_of_mem member)
  have dropsRight : ∀ item ∈ right, decide (item.name ∈ left.map Item.name) = false := by
    intro item member
    apply decide_eq_false
    intro named
    obtain ⟨other, otherMember, sameName⟩ := List.mem_map.1 named
    exact (apart other otherMember item member).1 sameName
  obtain ⟨sameSides, sameLeft, sameRight⟩ := interleaves.eq_filter keepsLeft dropsRight
  refine ⟨fun name => decide (name ∈ left.map Item.name), ?_, ?_, sameLeft, sameRight⟩
  · intro item member other otherMember implemented
    -- The name of an item tells which list the item is from.
    have side {item : Item} (member : item ∈ whole) :
        item.name ∈ left.map Item.name ∧ item ∈ left ∨
          item.name ∉ left.map Item.name ∧ item ∈ right := by
      by_cases named : item.name ∈ left.map Item.name
      · refine Or.inl ⟨named, ?_⟩
        rw [sameLeft]
        exact List.mem_filter.2 ⟨member, decide_eq_true named⟩
      · refine Or.inr ⟨named, ?_⟩
        rw [sameRight]
        exact List.mem_filter.2 ⟨member, by simpa using named⟩
    rcases side member with ⟨itemNamed, inLeft⟩ | ⟨itemUnnamed, inRight⟩
    · rcases side otherMember with ⟨otherNamed, _⟩ | ⟨_, otherRight⟩
      · exact (decide_eq_true otherNamed).trans (decide_eq_true itemNamed).symm
      · exact absurd implemented (apart item inLeft other otherRight).2.1
    · rcases side otherMember with ⟨_, otherLeft⟩ | ⟨otherUnnamed, _⟩
      · exact absurd implemented (apart other otherLeft item inRight).2.2
      · exact (decide_eq_false otherUnnamed).trans (decide_eq_false itemUnnamed).symm
  · rw [sameSides, List.map_map]
    rfl

/-- The items of two independent lists are merged as in their own list, whatever the order in which
the items of the one stand among those of the other. -/
theorem interleaves_merge {sides : List Bool} {left right whole : List Item}
    (interleaves : Interleaves sides left right whole)
    (apart : Apart left right) :
    Interleaves sides (merge left).value (merge right).value (merge whole).value := by
  obtain ⟨inside, parted, rfl, rfl, rfl⟩ := apart.exists_parted interleaves
  rw [← names_merge, ← parted.filter_merge, ← parted.not.filter_merge, List.map_map]
  exact .of_filter (merge whole).value

/-- A team whose extensions stand before and after an interface that has an extension itself. -/
def teamItems : List Item :=
  [{ name := "Team", kind := .extension, interfaces := ["Node"], tags := ["entity"] },
   { name := "Node", kind := .interface, fields := [{ name := "id" }] },
   { name := "Node", kind := .extension, fields := [{ name := "rank" }] },
   { name := "Team", kind := .extension, fields := [{ name := "size" }], interfaces := ["Node"] }]

/-- An enum with an extension, and an object whose interface is not declared. -/
def roleItems : List Item :=
  [{ name := "Role", kind := .extension, fields := [{ name := "OWNER" }] },
   { name := "User", kind := .object, fields := [{ name := "id" }], interfaces := ["Named"] },
   { name := "Role", kind := .enum, fields := [{ name := "ADMIN" }], tags := ["key"] }]

/-- The team comes out as it does without the items of the role between its extensions: what the
interface takes over after the first of them comes with the second. -/
theorem interleaves_merge_teamItems :
    ∃ whole : List Item,
      Interleaves [false, true, true, false, true, true, false] teamItems roleItems whole ∧
      Apart teamItems roleItems ∧
      Interleaves [false, true, true, false, true, true, false] (merge teamItems).value
        (merge roleItems).value (merge whole).value ∧
      (merge whole).value[1]? = some
        { name := "Team", kind := .object,
          fields := [{ name := "id" }, { name := "size" }, { name := "rank" }],
          interfaces := ["Node", "Node"], tags := ["entity"] } ∧
      (merge whole).value[6]? = some
        { name := "Role", kind := .enum, fields := [{ name := "ADMIN" }, { name := "OWNER" }],
          tags := ["key"] } := by
  have interleaves : Interleaves [false, true, true, false, true, true, false] teamItems roleItems
      _ :=
    .right _ (.left _ (.left _ (.right _ (.left _ (.left _ (.right _ .nil))))))
  have apart : Apart teamItems roleItems := by decide
  exact ⟨_, interleaves, apart, interleaves_merge interleaves apart, by decide, by decide⟩

end Merge

end SchemaDecl
