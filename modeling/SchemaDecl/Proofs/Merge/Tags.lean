import Mathlib.Data.List.Nodup
import SchemaDecl.Proofs.Merge.Retention

/-!
# Where tags come from

The visit of an item changes none of its own tags, and it changes the tags of another item only by
folding an extension into it.  An extension that is folded has the tags it was given, so each of its
tags goes to the base of its name and no further.  No tag is added twice.
-/

namespace SchemaDecl

namespace Item

theorem nodup_withTag {tags : List String} (distinct : tags.Nodup) (added : String) :
    (withTag tags added).Nodup := by
  unfold withTag
  split
  · exact distinct
  · rename_i unknown
    rw [← List.concat_eq_append]
    exact distinct.concat unknown

theorem nodup_foldl_withTag {tags : List String} (distinct : tags.Nodup)
    (additions : List String) :
    (additions.foldl withTag tags).Nodup := by
  induction additions generalizing tags with
  | nil => exact distinct
  | cons added rest inductionHypothesis => exact inductionHypothesis (nodup_withTag distinct added)

end Item

namespace Merge

variable {items : List Item}

/-! ## Tags that an extension hands over -/

/-- The item at a place is an extension with a tag, and the base of its name is at another position.
-/
def HandsOver (items : List Item) (source position : Nat) (tag : String) : Prop :=
  source ≠ position ∧ ∃ extension, items[source]? = some extension ∧
    extension.kind = .extension ∧ base? items extension.name = some position ∧
    tag ∈ extension.tags

/-- The tags that an extension hands over are those that it has when it is folded. -/
theorem handsOver_iff_folded {count position : Nat} {visited : Item}
    (visits : (progress items count)[count]? = some visited)
    (other : position ≠ count)
    (tag : String) :
    HandsOver items count position tag ↔
      (visited.kind = .extension ∧ baseIndex? (progress items count) visited = some position) ∧
        tag ∈ visited.tags := by
  constructor
  · rintro ⟨_, extension, here, kind, isBase, tagged⟩
    have stands := standing_of_progress here visits
    have same := stands.waiting kind (Nat.le_refl count)
    subst same
    refine ⟨⟨kind, ?_⟩, tagged⟩
    rw [baseIndex?_progress here kind, isBase, if_neg (by simpa using other)]
  · rintro ⟨⟨kind, found⟩, tagged⟩
    obtain ⟨here, isBase⟩ := base?_of_folded visits kind found
    exact ⟨other.symm, visited, here, kind, isBase, tagged⟩

/-- One visit adds the tags that the visited item hands over. -/
theorem mem_tags_visit {count position : Nat} {current : Item}
    (here : (progress items count)[position]? = some current) :
    ∃ next, (progress items (count + 1))[position]? = some next ∧
      ∀ tag, tag ∈ next.tags ↔ tag ∈ current.tags ∨ HandsOver items count position tag := by
  rw [progress_succ]
  by_cases self : position = count
  · subst self
    refine ⟨_, getElem?_visit_self here, ?_⟩
    intro tag
    rw [tags_settled, or_iff_left fun handsOver : HandsOver _ _ _ _ => handsOver.1 rfl]
  · cases visits : (progress items count)[count]? with
    | none =>
        rw [value_visit_of_none visits]
        refine ⟨current, here, ?_⟩
        intro tag
        rw [or_iff_left]
        rintro ⟨_, extension, atCount, _⟩
        have inside := (List.getElem?_eq_some_iff.1 atCount).1
        rw [List.getElem?_eq_none_iff, length_progress] at visits
        omega
    | some visited =>
        refine ⟨_, getElem?_visit_of_ne visits here self, ?_⟩
        intro tag
        rw [handsOver_iff_folded visits self, touched]
        split
        · rename_i folds
          rw [and_iff_right folds]
          exact Item.mem_foldl_withTag current.tags visited.tags tag
        · rename_i stays
          rw [or_iff_left fun handsOver => stays handsOver.1]

/-- After a number of visits an item has its own tags and those that were handed over to it. -/
theorem mem_tags_progress (items : List Item) (count : Nat) {position : Nat} {item : Item}
    (here : items[position]? = some item) :
    ∃ current, (progress items count)[position]? = some current ∧
      ∀ tag, tag ∈ current.tags ↔
        tag ∈ item.tags ∨ ∃ source < count, HandsOver items source position tag := by
  induction count with
  | zero => exact ⟨item, here, by simp⟩
  | succ count inductionHypothesis =>
      obtain ⟨current, atPosition, tags⟩ := inductionHypothesis
      obtain ⟨next, there, added⟩ := mem_tags_visit atPosition
      refine ⟨next, there, ?_⟩
      intro tag
      rw [added, tags, or_assoc, Nat.exists_lt_succ_right]

/-! ## The tags of merged items -/

/-- A merged item has its own tags.  The first one of its name that is no extension also has the
tags of all extensions of the name. -/
theorem mem_tags_merge {position : Nat} {item merged : Item}
    (here : items[position]? = some item)
    (there : (merge items).value[position]? = some merged)
    (tag : String) :
    tag ∈ merged.tags ↔ tag ∈ item.tags ∨
      (merge items).value.findIdx? (Item.defines item.name) = some position ∧
        ∃ extension ∈ items, extension.amends item.name = true ∧ tag ∈ extension.tags := by
  rw [findIdx?_defines_merge]
  rw [value_merge_eq_progress] at there
  obtain ⟨current, atPosition, tags⟩ := mem_tags_progress items items.length here
  rw [there, Option.some_inj] at atPosition
  subst atPosition
  rw [tags]
  constructor
  · rintro (own | ⟨source, _, _, extension, atSource, kind, isBase, tagged⟩)
    · exact Or.inl own
    · have sameName := name_of_base? isBase here
      exact Or.inr ⟨sameName ▸ isBase, extension, List.mem_of_getElem? atSource,
        (Item.amends_iff _ _).2 ⟨sameName.symm, kind⟩, tagged⟩
  · rintro (own | ⟨isBase, extension, member, amends, tagged⟩)
    · exact Or.inl own
    · obtain ⟨sameName, kind⟩ := (Item.amends_iff _ _).1 amends
      obtain ⟨source, atSource⟩ := List.mem_iff_getElem?.1 member
      by_cases self : source = position
      · -- The base is the extension itself, so that the tag is its own.
        subst self
        rw [here, Option.some_inj] at atSource
        exact Or.inl (atSource ▸ tagged)
      · exact Or.inr ⟨source, (List.getElem?_eq_some_iff.1 atSource).1, self, extension, atSource,
          kind, sameName ▸ isBase, tagged⟩

/-- One visit repeats no tag. -/
theorem nodup_tags_visit (distinct : ∀ item ∈ items, item.tags.Nodup) (index : Nat) :
    ∀ item ∈ (visit items index).value, item.tags.Nodup := by
  cases visits : items[index]? with
  | none =>
      rw [value_visit_of_none visits]
      exact distinct
  | some visited =>
      rw [value_visit visits]
      intro changed member
      obtain ⟨position, inside, rfl⟩ := List.mem_mapIdx.1 member
      have kept := distinct items[position] (List.getElem_mem inside)
      split
      · rw [tags_settled]
        exact kept
      · unfold touched
        split
        · exact Item.nodup_foldl_withTag kept visited.tags
        · exact kept

/-- Merging repeats no tag. -/
theorem nodup_tags_merge (distinct : ∀ item ∈ items, item.tags.Nodup) :
    ∀ merged ∈ (merge items).value, merged.tags.Nodup := by
  rw [value_merge_eq_progress]
  induction items.length with
  | zero => exact distinct
  | succ count inductionHypothesis =>
      rw [progress_succ]
      exact nodup_tags_visit inductionHypothesis count

end Merge

end SchemaDecl
