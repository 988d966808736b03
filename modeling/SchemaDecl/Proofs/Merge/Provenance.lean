import Mathlib.Data.List.Nodup
import SchemaDecl.Proofs.Merge.Retention

/-!
# Where fields come from

All growth of an item's fields is an appending of missing fields, so a name that an item lacks comes
at most once, and a name it has comes no more.  What is appended was read from an interface or from
an extension, whose fields in turn are its own or were read from such items before.  No condition on
the items is needed, though fields may travel from an interface to an extension, from there into
another interface, and on to an object.
-/

namespace SchemaDecl

/-! ## Occurrences of a name -/

namespace Field

/-- How often a name occurs among fields. -/
def occurrences (fields : List Field) (name : String) : Nat :=
  fields.countP fun field => field.name == name

theorem occurrences_append (left right : List Field) (name : String) :
    occurrences (left ++ right) name = occurrences left name + occurrences right name :=
  List.countP_append

theorem present_eq_true_iff_occurrences_pos (fields : List Field) (name : String) :
    present fields name = true ↔ 0 < occurrences fields name := by
  rw [occurrences, List.countP_pos_iff, present, List.any_eq_true]

theorem nodup_map_name_iff (fields : List Field) :
    (fields.map Field.name).Nodup ↔ ∀ name, occurrences fields name ≤ 1 := by
  rw [List.nodup_iff_count_le_one]
  refine forall_congr' fun name => ?_
  rw [List.count, List.countP_map]
  rfl

/-- The missing fields are among those to be appended. -/
theorem missing_sublist (fields additions : List Field) :
    (missing fields additions).Sublist additions := by
  induction additions generalizing fields with
  | nil => exact List.Sublist.refl []
  | cons field rest inductionHypothesis =>
      rw [missing_cons]
      split
      · exact (inductionHypothesis fields).cons field
      · exact (inductionHypothesis (fields ++ [field])).cons_cons field

/-- A name is missing once or not at all. -/
theorem occurrences_missing (fields additions : List Field) (name : String) :
    occurrences (missing fields additions) name =
      if present fields name = false ∧ present additions name = true then 1 else 0 := by
  induction additions generalizing fields with
  | nil => simp [occurrences]
  | cons field rest inductionHypothesis =>
      rw [missing_cons, present_cons]
      by_cases known : present fields field.name = true
      · rw [if_pos known, inductionHypothesis]
        by_cases same : field.name = name
        · subst same
          simp [known]
        · simp [beq_false_of_ne same]
      · rw [if_neg known, ← List.singleton_append, occurrences_append, inductionHypothesis]
        by_cases same : field.name = name
        · subst same
          simp [known, occurrences, present_cons]
        · simp [beq_false_of_ne same, occurrences, present_cons]

/-- A name that is there occurs as often as before, and another one occurs once if it is appended.
-/
theorem occurrences_appendMissing (fields additions : List Field) (name : String) :
    occurrences (appendMissing fields additions) name =
      if present fields name = true then occurrences fields name
      else if present additions name = true then 1 else 0 := by
  have absent (unknown : present fields name = false) : occurrences fields name = 0 := by
    have noneThere := mt (present_eq_true_iff_occurrences_pos fields name).2 (by simp [unknown])
    omega
  rw [appendMissing, occurrences_append, occurrences_missing]
  cases known : present fields name with
  | true => simp
  | false => simp [absent known]

end Field

namespace Merge

/-! ## Supplied fields -/

/-- A field of an interface or an extension among some items. -/
def Supplied (items : List Item) (field : Field) : Prop :=
  ∃ source ∈ items, (source.kind = .interface ∨ source.kind = .extension) ∧ field ∈ source.fields

/-- An item has gained fields by appending those it lacks among supplied fields. -/
def Gained (items : List Item) (before after : Item) : Prop :=
  ∃ gained, after.fields = Field.appendMissing before.fields gained ∧
    ∀ field ∈ gained, Supplied items field

variable {items : List Item}

theorem Gained.refl (items : List Item) (item : Item) : Gained items item item :=
  ⟨[], (Field.appendMissing_nil item.fields).symm, List.forall_mem_nil _⟩

theorem Gained.append {before after grown : Item} {more : List Field}
    (gained : Gained items before after)
    (appends : grown.fields = Field.appendMissing after.fields more)
    (supplied : ∀ field ∈ more, Supplied items field) :
    Gained items before grown := by
  obtain ⟨earlier, same, allSupplied⟩ := gained
  refine ⟨earlier ++ more, ?_, List.forall_mem_append.2 ⟨allSupplied, supplied⟩⟩
  rw [Field.appendMissing_append, ← same, ← appends]

/-- Whatever an interface or an extension has gained, all its fields are supplied. -/
theorem Gained.supplied {item current : Item}
    (gained : Gained items item current)
    (member : item ∈ items)
    (kind : item.kind = .interface ∨ item.kind = .extension) :
    ∀ field ∈ current.fields, Supplied items field := by
  obtain ⟨arrived, same, allSupplied⟩ := gained
  intro field inFields
  rw [same] at inFields
  rcases Field.mem_of_mem_appendMissing inFields with own | later
  · exact ⟨item, member, kind, own⟩
  · exact allSupplied field later

/-- A number of visits has left nothing but supplied fields in interfaces and extensions. -/
def Supplies (items state : List Item) : Prop :=
  ∀ source ∈ state, source.kind = .interface ∨ source.kind = .extension →
    ∀ field ∈ source.fields, Supplied items field

theorem Supplies.inherited {state : List Item} (supplies : Supplies items state)
    (names : List String) :
    ∀ field ∈ inherited state names, Supplied items field := by
  intro field passed
  obtain ⟨name, _, interface, declared, inFields⟩ := (mem_inherited_iff state names field).1 passed
  have isInterface := List.find?_some declared
  simp only [Bool.and_eq_true, beq_iff_eq] at isInterface
  exact supplies interface (List.mem_of_find?_eq_some declared) (Or.inl isInterface.1) field
    inFields

theorem Gained.completed {state : List Item} {item current : Item}
    (gained : Gained items item current)
    (supplies : Supplies items state) :
    Gained items item (completed state current) :=
  gained.append rfl (supplies.inherited current.interfaces)

theorem Gained.settled {state : List Item} {item current : Item}
    (gained : Gained items item current)
    (supplies : Supplies items state) :
    Gained items item (settled state current) := by
  have completes := gained.completed supplies
  unfold Merge.settled
  split
  · exact completes
  · split
    · exact completes
    · exact completes.append (Field.appendMissing_nil _).symm (List.forall_mem_nil _)
  · exact gained

theorem Gained.touched {state : List Item} {item current visited : Item}
    (gained : Gained items item current)
    (supplies : Supplies items state)
    (member : visited ∈ state)
    (position : Nat) :
    Gained items item (touched state visited position current) := by
  unfold Merge.touched
  split
  · rename_i folds
    refine gained.append rfl ?_
    intro field inFields
    rcases Field.mem_of_mem_appendMissing inFields with own | passed
    · exact supplies visited member (Or.inr folds.1) field own
    · exact supplies.inherited visited.interfaces field passed
  · exact gained

/-- Whatever an item has gained after a number of visits was supplied. -/
theorem gained_progress (items : List Item) (count : Nat) :
    ∀ (position : Nat) (item : Item), items[position]? = some item →
      ∃ current, (progress items count)[position]? = some current ∧
        Gained items item current := by
  induction count with
  | zero => exact fun position item here => ⟨item, here, .refl items item⟩
  | succ count inductionHypothesis =>
      intro position item here
      obtain ⟨current, atPosition, gained⟩ := inductionHypothesis position item here
      have supplies : Supplies items (progress items count) := by
        intro source member kind
        obtain ⟨place, atPlace⟩ := List.mem_iff_getElem?.1 member
        obtain ⟨origin, atOrigin, stands⟩ := exists_origin_progress atPlace
        obtain ⟨known, atKnown, sourceGained⟩ := inductionHypothesis place origin atOrigin
        rw [atPlace, Option.some_inj] at atKnown
        subst atKnown
        have sameKind := stands.kind_eq (by rcases kind with kind | kind <;> simp [kind])
        exact sourceGained.supplied (List.mem_of_getElem? atOrigin) (sameKind ▸ kind)
      rw [progress_succ]
      by_cases self : position = count
      · subst self
        exact ⟨_, getElem?_visit_self atPosition, gained.settled supplies⟩
      · cases visits : (progress items count)[count]? with
        | none =>
            rw [value_visit_of_none visits]
            exact ⟨current, atPosition, gained⟩
        | some visited =>
            exact ⟨_, getElem?_visit_of_ne visits atPosition self,
              gained.touched supplies (List.mem_of_getElem? visits) position⟩

/-! ## Items that gain nothing -/

/-- Neither an object nor an extension nor the first item of an extended name that is no extension.
-/
structure Idle (items : List Item) (position : Nat) (item : Item) : Prop where
  notObject : item.kind ≠ .object
  notExtension : item.kind ≠ .extension
  unextended : items.findIdx? (Item.defines item.name) = some position →
    ∀ extension ∈ items, extension.name = item.name → extension.kind ≠ .extension

/-- Such an item stays as it is. -/
theorem Idle.progress {position : Nat} {item : Item}
    (idle : Idle items position item)
    (here : items[position]? = some item)
    (count : Nat) :
    (progress items count)[position]? = some item := by
  induction count with
  | zero => exact here
  | succ count inductionHypothesis =>
      rw [progress_succ]
      by_cases self : position = count
      · subst self
        rw [getElem?_visit_self inductionHypothesis]
        cases kind : item.kind with
        | object => exact absurd kind idle.notObject
        | extension => exact absurd kind idle.notExtension
        | interface | enum => simp only [settled, kind]
      · cases visits : (Merge.progress items count)[count]? with
        | none => rw [value_visit_of_none visits, inductionHypothesis]
        | some visited =>
            rw [getElem?_visit_of_ne visits inductionHypothesis self]
            congr 1
            apply if_neg
            rintro ⟨kind, found⟩
            obtain ⟨atCount, isBase⟩ := base?_of_folded visits kind found
            have sameName := name_of_base? isBase here
            rcases base?_cases isBase with defined | ⟨_, amended⟩
            · rw [← sameName] at defined
              exact idle.unextended defined visited (List.mem_of_getElem? atCount) sameName.symm
                kind
            · have amends := holds_of_findIdx? amended here
              exact idle.notExtension ((Item.amends_iff visited.name item).1 amends).2

/-! ## The merged items -/

/-- A name that an item has occurs as often as before, and any other occurs at most once. -/
theorem Gained.occurrences {item merged : Item}
    (gained : Gained items item merged)
    (name : String) :
    (0 < Field.occurrences item.fields name →
      Field.occurrences merged.fields name = Field.occurrences item.fields name) ∧
      (Field.occurrences item.fields name = 0 → Field.occurrences merged.fields name ≤ 1) := by
  obtain ⟨arrived, same, _⟩ := gained
  have known_iff := Field.present_eq_true_iff_occurrences_pos item.fields name
  rw [same, Field.occurrences_appendMissing]
  constructor
  · intro known
    rw [if_pos (known_iff.2 known)]
  · intro unknown
    rw [if_neg (mt known_iff.1 (by omega))]
    split <;> omega

/-- Names that do not repeat go on not to repeat. -/
theorem Gained.nodup {item merged : Item}
    (gained : Gained items item merged)
    (distinct : (item.fields.map Field.name).Nodup) :
    (merged.fields.map Field.name).Nodup := by
  rw [Field.nodup_map_name_iff] at distinct ⊢
  intro name
  obtain ⟨kept, new⟩ := gained.occurrences name
  have once := distinct name
  rcases Nat.eq_zero_or_pos (Field.occurrences item.fields name) with unknown | known
  · exact new unknown
  · rw [kept known]
    exact once

/-- Supplied fields follow the fields that were there. -/
theorem Gained.exists_added {item merged : Item} (gained : Gained items item merged) :
    ∃ added, merged.fields = item.fields ++ added ∧ ∀ field ∈ added, Supplied items field := by
  obtain ⟨arrived, same, allSupplied⟩ := gained
  refine ⟨Field.missing item.fields arrived, same, ?_⟩
  intro field isMissing
  exact allSupplied field ((Field.missing_sublist item.fields arrived).subset isMissing)

/-- Every field of a merged item is one of a given item. -/
theorem exists_source_of_mem_fields {merged : Item} {field : Field}
    (member : merged ∈ (merge items).value)
    (inFields : field ∈ merged.fields) :
    ∃ source ∈ items, field ∈ source.fields := by
  rw [value_merge_eq_progress] at member
  obtain ⟨position, there⟩ := List.mem_iff_getElem?.1 member
  obtain ⟨item, here, _⟩ := exists_origin_progress there
  obtain ⟨known, atPosition, gained⟩ := gained_progress items items.length position item here
  rw [there, Option.some_inj] at atPosition
  subst atPosition
  obtain ⟨added, same, supplied⟩ := gained.exists_added
  rw [same] at inFields
  rcases List.mem_append.1 inFields with own | later
  · exact ⟨item, List.mem_of_getElem? here, own⟩
  · obtain ⟨source, isSource, _, inSource⟩ := supplied field later
    exact ⟨source, isSource, inSource⟩

/-- Merging repeats no field and invents none.  A name that an item has occurs as often as before
and any other occurs at most once, so that names that do not repeat go on not to repeat.  What is
added are fields of the given interfaces and extensions.  Nothing at all is added to an item that is
neither an object nor an extension nor the first item of an extended name that is no extension. -/
theorem merge_repeats_and_invents_nothing (items : List Item) :
    (∀ (position : Nat) (item : Item), items[position]? = some item →
      ∃ merged, (merge items).value[position]? = some merged ∧
        (∀ name,
          (0 < Field.occurrences item.fields name →
            Field.occurrences merged.fields name = Field.occurrences item.fields name) ∧
          (Field.occurrences item.fields name = 0 →
            Field.occurrences merged.fields name ≤ 1)) ∧
        (∃ added, merged.fields = item.fields ++ added ∧ ∀ field ∈ added, Supplied items field) ∧
        (Idle items position item →
          merged.fields = item.fields ∧ merged.tags = item.tags ∧
            merged.interfaces = item.interfaces)) ∧
      ((∀ item ∈ items, (item.fields.map Field.name).Nodup) →
        ∀ merged ∈ (merge items).value, (merged.fields.map Field.name).Nodup) := by
  rw [value_merge_eq_progress]
  constructor
  · intro position item here
    obtain ⟨merged, there, gained⟩ := gained_progress items items.length position item here
    refine ⟨merged, there, gained.occurrences, gained.exists_added, ?_⟩
    intro idle
    have stays := idle.progress here items.length
    rw [there, Option.some_inj] at stays
    subst stays
    exact ⟨rfl, rfl, rfl⟩
  · intro distinct merged member
    obtain ⟨position, there⟩ := List.mem_iff_getElem?.1 member
    obtain ⟨item, here, _⟩ := exists_origin_progress there
    obtain ⟨known, atPosition, gained⟩ := gained_progress items items.length position item here
    rw [there, Option.some_inj] at atPosition
    exact atPosition ▸ gained.nodup (distinct item (List.mem_of_getElem? here))

/-- An extension of an interface that implements another one, and an object that repeats a field. -/
def travellingItems : List Item :=
  [{ name := "Named", kind := .extension, fields := [{ name := "rank" }], interfaces := ["Node"] },
   { name := "Node", kind := .interface, fields := [{ name := "id" }], tags := ["key"] },
   { name := "Named", kind := .interface, fields := [{ name := "name" }, { name := "name" }] },
   { name := "User", kind := .object, fields := [{ name := "mail" }, { name := "mail" }],
     interfaces := ["Named"] }]

/-- The field of `Node` travels through the extension and the other interface to the object, which
keeps its field twice and gains the repeated field of the interface once. -/
theorem merge_travellingItems_repeats_and_invents_nothing :
    ∃ user merged node resolved : Item,
      travellingItems[3]? = some user ∧ (merge travellingItems).value[3]? = some merged ∧
      Field.occurrences merged.fields "mail" = Field.occurrences user.fields "mail" ∧
      Field.occurrences merged.fields "name" ≤ 1 ∧
      merged.fields.map Field.name = ["mail", "mail", "name", "rank", "id"] ∧
      (∃ added, merged.fields = user.fields ++ added ∧
        ∀ field ∈ added, Supplied travellingItems field) ∧
      travellingItems[1]? = some node ∧ (merge travellingItems).value[1]? = some resolved ∧
      Idle travellingItems 1 node ∧ resolved.tags = ["key"] := by
  obtain ⟨each, _⟩ := merge_repeats_and_invents_nothing travellingItems
  obtain ⟨merged, atUser, occurrences, added, _⟩ := each 3 _ rfl
  obtain ⟨resolved, atNode, _, _, stays⟩ := each 1 _ rfl
  have idle : Idle travellingItems 1
      { name := "Node", kind := .interface, fields := [{ name := "id" }], tags := ["key"] } :=
    ⟨by decide, by decide, by decide⟩
  have final : (merge travellingItems).value[3]? = some
      { name := "User", kind := .object,
        fields := [{ name := "mail" }, { name := "mail" }, { name := "name" }, { name := "rank" },
          { name := "id" }],
        interfaces := ["Named"] } := by
    decide
  have names : merged.fields.map Field.name = ["mail", "mail", "name", "rank", "id"] := by
    rw [final, Option.some_inj] at atUser
    rw [← atUser]
    rfl
  exact ⟨_, merged, _, resolved, rfl, atUser, (occurrences "mail").1 (by decide),
    (occurrences "name").2 (by decide), names, added, rfl, atNode, idle, (stays idle).2.1⟩

end Merge

end SchemaDecl
