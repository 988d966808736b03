import Mathlib.Data.List.Basic
import Mathlib.Data.List.Find
import SchemaDecl.Proofs.Merge.Visit

/-!
# Leaving items out

An item can be left out before merging as well as afterwards if no visit of another item looks it
up.  Leaving items out moves those behind them: `rank` gives the new position of what is kept, and
`filter_value_visit` says that the visit of a kept item does the same at its new position.
-/

namespace SchemaDecl

/-! ## Positions among the kept elements -/

section Rank

variable {α : Type} {keep : α → Bool}

/-- The number of kept elements in front of a position. -/
def rank (keep : α → Bool) (elements : List α) (position : Nat) : Nat :=
  (elements.take position).countP keep

@[simp] theorem rank_zero (elements : List α) : rank keep elements 0 = 0 := rfl

theorem rank_cons_succ (element : α) (rest : List α) (position : Nat) :
    rank keep (element :: rest) (position + 1) =
      rank keep rest position + if keep element then 1 else 0 := by
  rw [rank, List.take_succ_cons, List.countP_cons, rank]

theorem rank_length (elements : List α) :
    rank keep elements elements.length = (elements.filter keep).length := by
  rw [rank, List.take_length, List.countP_eq_length_filter]

theorem rank_succ {elements : List α} {position : Nat} {element : α}
    (here : elements[position]? = some element) :
    rank keep elements (position + 1) =
      rank keep elements position + if keep element then 1 else 0 := by
  rw [rank, List.take_add_one, here, Option.toList_some, List.countP_append,
    List.countP_singleton, rank]

/-- The number depends only on what is kept. -/
theorem rank_congr {left right : List α} (same : left.map keep = right.map keep)
    (position : Nat) :
    rank keep left position = rank keep right position := by
  have through (elements : List α) :
      rank keep elements position = ((elements.map keep).take position).countP id := by
    rw [rank, ← List.map_take, List.countP_map, Function.id_comp]
  rw [through, through, same]

theorem rank_lt {elements : List α} {position later : Nat} {element : α}
    (here : elements[position]? = some element)
    (kept : keep element = true)
    (before : position < later) :
    rank keep elements position < rank keep elements later := by
  have grows : rank keep elements (position + 1) = rank keep elements position + 1 := by
    rw [rank_succ here, if_pos kept]
  have taken : elements.take (position + 1) <+: elements.take later :=
    List.take_prefix_take_left (by omega)
  have contained : rank keep elements (position + 1) ≤ rank keep elements later :=
    taken.sublist.countP_le
  omega

/-- Kept elements at different positions have different numbers. -/
theorem rank_inj {elements : List α} {left right : Nat} {first second : α}
    (atLeft : elements[left]? = some first)
    (atRight : elements[right]? = some second)
    (firstKept : keep first = true)
    (secondKept : keep second = true) :
    rank keep elements left = rank keep elements right ↔ left = right := by
  constructor
  · intro same
    rcases Nat.lt_trichotomy left right with before | equal | after
    · have different := rank_lt atLeft firstKept before
      omega
    · exact equal
    · have different := rank_lt atRight secondKept after
      omega
  · rintro rfl
    rfl

theorem getElem?_filter_rank {elements : List α} {position : Nat} {element : α}
    (here : elements[position]? = some element)
    (kept : keep element = true) :
    (elements.filter keep)[rank keep elements position]? = some element := by
  induction elements generalizing position with
  | nil => simp at here
  | cons head rest inductionHypothesis =>
      cases position with
      | zero =>
          rw [List.getElem?_cons_zero, Option.some_inj] at here
          subst here
          rw [List.filter_cons_of_pos kept, rank_zero, List.getElem?_cons_zero]
      | succ position =>
          rw [List.getElem?_cons_succ] at here
          rw [rank_cons_succ, List.filter_cons]
          split
          · rw [List.getElem?_cons_succ, inductionHypothesis here]
          · rw [Nat.add_zero, inductionHypothesis here]

/-- A search for something that is always kept finds it at its new position. -/
theorem findIdx?_filter {elements : List α} {test : α → Bool}
    (kept : ∀ element ∈ elements, test element = true → keep element = true) :
    (elements.filter keep).findIdx? test =
      (elements.findIdx? test).map (rank keep elements) := by
  induction elements with
  | nil => rfl
  | cons head rest inductionHypothesis =>
      rw [List.forall_mem_cons] at kept
      obtain ⟨headKept, restKept⟩ := kept
      have later : ((rest.findIdx? test).map (· + 1)).map (rank keep (head :: rest)) =
          ((rest.filter keep).findIdx? test).map (· + if keep head then 1 else 0) := by
        rw [inductionHypothesis restKept, Option.map_map, Option.map_map]
        congr 1
        funext position
        exact rank_cons_succ head rest position
      rw [List.findIdx?_cons]
      by_cases found : test head = true
      · rw [if_pos found, List.filter_cons_of_pos (headKept found), List.findIdx?_cons,
          if_pos found]
        rfl
      · rw [if_neg found, later, List.filter_cons]
        split
        · rw [List.findIdx?_cons, if_neg found]
        · simp

/-- What changes elements in place can be restricted to those that are kept. -/
theorem filter_mapIdx {elements : List α} {change restricted : Nat → α → α}
    (keeps : ∀ position element, elements[position]? = some element →
      keep (change position element) = keep element)
    (agrees : ∀ position element, elements[position]? = some element → keep element = true →
      change position element = restricted (rank keep elements position) element) :
    (elements.mapIdx change).filter keep = (elements.filter keep).mapIdx restricted := by
  induction elements generalizing change restricted with
  | nil => rfl
  | cons head rest inductionHypothesis =>
      have headKeeps := keeps 0 head rfl
      have restKeeps : ∀ position element, rest[position]? = some element →
          keep (change (position + 1) element) = keep element :=
        fun position element here => keeps (position + 1) element here
      rw [List.mapIdx_cons]
      by_cases kept : keep head = true
      · rw [List.filter_cons_of_pos (headKeeps.trans kept), List.filter_cons_of_pos kept,
          List.mapIdx_cons, agrees 0 head rfl kept]
        congr 1
        apply inductionHypothesis restKeeps
        intro position element here elementKept
        rw [agrees (position + 1) element here elementKept, rank_cons_succ, if_pos kept]
      · rw [List.filter_cons_of_neg (by rwa [headKeeps]), List.filter_cons_of_neg kept,
          inductionHypothesis restKeeps]
        intro position element here elementKept
        rw [agrees (position + 1) element here elementKept, rank_cons_succ, if_neg kept,
          Nat.add_zero]

/-- What changes none of the elements that are kept keeps them all. -/
theorem filter_mapIdx_eq_filter {elements : List α} {change : Nat → α → α}
    (keeps : ∀ position element, elements[position]? = some element →
      keep (change position element) = keep element)
    (unchanged : ∀ position element, elements[position]? = some element → keep element = true →
      change position element = element) :
    (elements.mapIdx change).filter keep = elements.filter keep := by
  have restricted : (elements.mapIdx change).filter keep =
      (elements.filter keep).mapIdx fun _ element => element :=
    filter_mapIdx keeps unchanged
  rw [restricted, List.mapIdx_eq_iff]
  exact fun position => Option.map_id'.symm

end Rank

namespace Merge

/-! ## The visit of a kept item -/

/-- What the visit of an item looks up is kept: the interfaces it implements and, if it is an
extension, what can be the base of its name. -/
structure Reaches (keep : Item → Bool) (items : List Item) (visited : Item) : Prop where
  interfaces : ∀ interface ∈ items, interface.kind = .interface →
    interface.name ∈ visited.interfaces → keep interface = true
  bases : visited.kind = .extension →
    ∀ base ∈ items, base.name = visited.name → base.kind ≠ .extension → keep base = true

namespace Reaches

variable {keep : Item → Bool} {items : List Item} {visited : Item}

theorem interface?_filter (reaches : Reaches keep items visited) {name : String}
    (implemented : name ∈ visited.interfaces) :
    interface? (items.filter keep) name = interface? items name := by
  rw [interface?, List.find?_filter, interface?]
  apply List.find?_congr
  intro item member
  by_cases found : item.kind = .interface ∧ item.name = name
  · have kept := reaches.interfaces item member found.1 (found.2 ▸ implemented)
    simp [found, kept]
  · rw [not_and] at found
    by_cases kind : item.kind = .interface
    · simp [kind, found kind]
    · simp [kind]

theorem completed_filter (reaches : Reaches keep items visited) :
    completed (items.filter keep) visited = completed items visited := by
  have same : inherited (items.filter keep) visited.interfaces =
      inherited items visited.interfaces := by
    unfold inherited
    apply List.flatMap_congr
    intro name implemented
    rw [reaches.interface?_filter implemented]
  rw [completed, completed, same]

theorem baseIndex?_filter (reaches : Reaches keep items visited)
    (kind : visited.kind = .extension) :
    baseIndex? (items.filter keep) visited =
      (baseIndex? items visited).map (rank keep items) := by
  apply findIdx?_filter
  intro item member found
  simp only [Bool.and_eq_true, beq_iff_eq, bne_iff_ne] at found
  exact reaches.bases kind item member found.1 (kind ▸ found.2)

theorem settled_filter (reaches : Reaches keep items visited) :
    settled (items.filter keep) visited = settled items visited := by
  unfold settled
  rw [reaches.completed_filter]
  cases kind : visited.kind with
  | extension => rw [reaches.baseIndex?_filter kind, Option.isSome_map]
  | object | interface | enum => rfl

theorem touched_filter (reaches : Reaches keep items visited) {position : Nat} {item : Item}
    (here : items[position]? = some item)
    (kept : keep item = true) :
    touched (items.filter keep) visited (rank keep items position) item =
      touched items visited position item := by
  have sameBase (kind : visited.kind = .extension) :
      baseIndex? (items.filter keep) visited = some (rank keep items position) ↔
        baseIndex? items visited = some position := by
    rw [reaches.baseIndex?_filter kind, Option.map_eq_some_iff]
    constructor
    · rintro ⟨base, found, sameRank⟩
      obtain ⟨bound, _, _⟩ := List.findIdx?_eq_some_iff_getElem.1 found
      have atBase := List.getElem?_eq_getElem bound
      obtain ⟨sameName, otherKind⟩ := kind_of_baseIndex? found atBase
      have baseKept := reaches.bases kind _ (List.getElem_mem bound) sameName (kind ▸ otherKind)
      rw [(rank_inj atBase here baseKept kept).1 sameRank] at found
      exact found
    · intro found
      exact ⟨position, found, rfl⟩
  unfold touched
  rw [reaches.completed_filter]
  simp only [and_congr_right sameBase]

end Reaches

/-- The visit of a kept item does the same where the others are left out. -/
theorem filter_value_visit {keep : Item → Bool} {items : List Item} {index : Nat} {visited : Item}
    (here : items[index]? = some visited)
    (kept : keep visited = true)
    (reaches : Reaches keep items visited)
    (settles : keep (settled items visited) = true)
    (touches : ∀ position item, items[position]? = some item →
      keep (touched items visited position item) = keep item) :
    (visit items index).value.filter keep =
      (visit (items.filter keep) (rank keep items index)).value := by
  rw [value_visit here, value_visit (getElem?_filter_rank here kept)]
  apply filter_mapIdx
  · intro position item there
    split
    · rename_i same
      subst same
      rw [here, Option.some_inj] at there
      rw [← there, settles, kept]
    · exact touches position item there
  · intro position item there itemKept
    simp only [rank_inj there here itemKept kept]
    split
    · rename_i same
      subst same
      rw [here, Option.some_inj] at there
      rw [← there, reaches.settled_filter]
    · rw [reaches.touched_filter there itemKept]

end Merge

end SchemaDecl
