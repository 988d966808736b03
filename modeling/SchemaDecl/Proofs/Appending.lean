import Mathlib.Data.List.Induction
import SchemaDecl.Proofs.Growth

/-!
# Laws of appending

Appending takes up the first field of every name that an item lacks, in the order of the list that
is appended, and counts what it takes up.  Whether a field is taken up shows from the fields of the
item and from those before it in the list; a field behind it plays no part.  So a longer list takes
up what a shorter one does and then more, and the names that an item ends up with are those it has
and those of all lists, in whatever order the lists come.
-/

namespace SchemaDecl

namespace Field

/-- A position of a list holds the first field of a name that the other fields lack. -/
def Introduces (fields additions : List Field) (position : Nat) : Prop :=
  ∃ field, additions[position]? = some field ∧
    ∀ other ∈ fields ++ additions.take position, other.name ≠ field.name

/-- Some fields are the first ones of the names that others lack, in the order of a list. -/
def FirstNew (fields additions chosen : List Field) : Prop :=
  ∃ positions : List Nat, positions.Pairwise (· < ·) ∧
    (∀ position, position ∈ positions ↔ Introduces fields additions position) ∧
    chosen.map some = positions.map (additions[·]?)

theorem present_eq_false_iff (fields : List Field) (name : String) :
    present fields name = false ↔ ∀ field ∈ fields, field.name ≠ name := by
  simp [present]

/-- What two lists bring is what the first brings and then what the second still does. -/
theorem missing_append (fields first second : List Field) :
    missing fields (first ++ second) =
      missing fields first ++ missing (appendMissing fields first) second := by
  have oneByOne := appendMissing_append fields first second
  unfold appendMissing at oneByOne ⊢
  rw [List.append_assoc] at oneByOne
  exact List.append_cancel_left oneByOne

/-- One more field is taken up if neither the fields there are nor those before it in the list have
its name. -/
theorem missing_concat (fields additions : List Field) (field : Field) :
    missing fields (additions ++ [field]) =
      if present (fields ++ additions) field.name then missing fields additions
      else missing fields additions ++ [field] := by
  rw [missing_append, missing_cons, missing_nil, missing_nil, present_appendMissing,
    ← present_append]
  split
  · rw [List.append_nil]
  · rfl

/-- Nothing is missing when all names are present. -/
theorem missing_eq_nil {fields additions : List Field}
    (known : ∀ field ∈ additions, present fields field.name = true) :
    missing fields additions = [] :=
  List.append_right_eq_self.1 (appendMissing_eq_self known)

/-- A position within a list holds the first field of a name whatever follows in the list. -/
theorem introduces_append_of_lt {additions : List Field} {position : Nat}
    (inside : position < additions.length)
    (fields later : List Field) :
    Introduces fields (additions ++ later) position ↔ Introduces fields additions position := by
  unfold Introduces
  rw [List.getElem?_append_left inside, List.take_append_of_le_length (Nat.le_of_lt inside)]

/-- The last field of a list is the first of its name if none before it has the name. -/
theorem introduces_concat_length (fields additions : List Field) (field : Field) :
    Introduces fields (additions ++ [field]) additions.length ↔
      present (fields ++ additions) field.name = false := by
  unfold Introduces
  rw [List.getElem?_concat_length, List.take_left, present_eq_false_iff]
  constructor
  · rintro ⟨_, ⟨⟩, new⟩
    exact new
  · intro new
    exact ⟨field, rfl, new⟩

theorem Introduces.lt_length {fields additions : List Field} {position : Nat}
    (introduces : Introduces fields additions position) :
    position < additions.length := by
  obtain ⟨_, here, _⟩ := introduces
  exact (List.getElem?_eq_some_iff.1 here).1

/-- One more field opens one more position, or none if its name is known. -/
theorem introduces_concat_iff (fields additions : List Field) (field : Field) (position : Nat) :
    Introduces fields (additions ++ [field]) position ↔
      Introduces fields additions position ∨
        position = additions.length ∧ present (fields ++ additions) field.name = false := by
  constructor
  · intro introduces
    have bound := introduces.lt_length
    rw [List.length_append, List.length_singleton] at bound
    rcases Nat.lt_succ_iff_lt_or_eq.1 bound with inside | last
    · exact Or.inl ((introduces_append_of_lt inside fields [field]).1 introduces)
    · subst last
      exact Or.inr ⟨rfl, (introduces_concat_length fields additions field).1 introduces⟩
  · rintro (introduces | ⟨rfl, new⟩)
    · exact (introduces_append_of_lt introduces.lt_length fields [field]).2 introduces
    · exact (introduces_concat_length fields additions field).2 new

/-- What is missing are the first fields of the names that are. -/
theorem firstNew_missing (fields additions : List Field) :
    FirstNew fields additions (missing fields additions) := by
  -- The list grows at its end, where the last field meets all fields before it.
  induction additions using List.reverseRecOn with
  | nil =>
      refine ⟨[], List.Pairwise.nil, ?_, rfl⟩
      intro position
      exact iff_of_false List.not_mem_nil fun introduces => absurd introduces.lt_length (by simp)
  | append_singleton additions field inductionHypothesis =>
      obtain ⟨positions, increasing, all, chosen⟩ := inductionHypothesis
      have inside {position : Nat} (member : position ∈ positions) :
          position < additions.length :=
        ((all position).1 member).lt_length
      have earlier : positions.map ((additions ++ [field])[·]?) = positions.map (additions[·]?) :=
        List.map_congr_left fun _ member => List.getElem?_append_left (inside member)
      rw [missing_concat]
      cases known : present (fields ++ additions) field.name with
      | true =>
          refine ⟨positions, increasing, ?_, ?_⟩
          · intro position
            simp [introduces_concat_iff, all, known]
          · rw [if_pos rfl, earlier, chosen]
      | false =>
          refine ⟨positions ++ [additions.length], ?_, ?_, ?_⟩
          · rw [List.pairwise_append]
            refine ⟨increasing, List.pairwise_singleton _ _, ?_⟩
            intro position member last isLast
            rw [List.mem_singleton.1 isLast]
            exact inside member
          · intro position
            simp [introduces_concat_iff, all, known]
          · rw [if_neg Bool.false_ne_true, List.map_append, List.map_append, earlier, chosen,
              List.map_singleton, List.map_singleton, List.getElem?_concat_length]

end Field

namespace Item

/-- Fields whose names an item has leave it as it is. -/
theorem appendMissing_of_hasField {item : Item} {additions : List Field}
    (known : ∀ field ∈ additions, item.hasField field.name = true) :
    item.appendMissing additions = item ∧ item.missingCount additions = 0 := by
  constructor
  · rw [appendMissing, Field.appendMissing_eq_self known]
  · rw [missingCount, Field.missing_eq_nil known, List.length_nil]

theorem hasField_appendMissing (item : Item) (additions : List Field) (name : String) :
    (item.appendMissing additions).hasField name =
      (item.hasField name || Field.present additions name) :=
  Field.present_appendMissing item.fields additions name

/-- Every name that is appended is there. -/
theorem hasField_of_mem_appended (item : Item) {additions : List Field} {field : Field}
    (member : field ∈ additions) :
    (item.appendMissing additions).hasField field.name = true := by
  rw [hasField_appendMissing, Field.present_of_mem member, Bool.or_true]

/-- After several lists an item has the names it had and the names of all lists. -/
theorem hasField_foldl_appendMissing (item : Item) (lists : List (List Field)) (name : String) :
    (lists.foldl appendMissing item).hasField name =
      (item.hasField name || lists.any (Field.present · name)) := by
  induction lists generalizing item with
  | nil => rw [List.foldl_nil, List.any_nil, Bool.or_false]
  | cons additions rest inductionHypothesis =>
      rw [List.foldl_cons, inductionHypothesis, hasField_appendMissing, List.any_cons,
        Bool.or_assoc]

/-- Appending a list to an item adds behind its fields the first field of every name that the item
lacks, in the order of the list, changes nothing else, and counts what it adds.  Every name of the
list is there afterwards.  Two lists one after the other are the joined list.  The same list again,
and the item's own fields, add nothing.  The names in the end do not depend on the order of several
lists. -/
theorem appendMissing_accumulates (item : Item) (additions : List Field) :
    (∃ chosen, Field.FirstNew item.fields additions chosen ∧
      item.appendMissing additions = { item with fields := item.fields ++ chosen } ∧
      item.missingCount additions = chosen.length) ∧
    (∀ field ∈ additions, (item.appendMissing additions).hasField field.name = true) ∧
    (∀ later, (item.appendMissing additions).appendMissing later =
        item.appendMissing (additions ++ later) ∧
      item.missingCount additions + (item.appendMissing additions).missingCount later =
        item.missingCount (additions ++ later)) ∧
    ((item.appendMissing additions).appendMissing additions = item.appendMissing additions ∧
      (item.appendMissing additions).missingCount additions = 0) ∧
    (item.appendMissing item.fields = item ∧ item.missingCount item.fields = 0) ∧
    ∀ lists reordered : List (List Field), lists.Perm reordered → ∀ name,
      (lists.foldl appendMissing item).hasField name =
        (reordered.foldl appendMissing item).hasField name := by
  refine ⟨?_, ?_, ?_, ?_, ?_, ?_⟩
  · exact ⟨Field.missing item.fields additions, Field.firstNew_missing item.fields additions,
      rfl, rfl⟩
  · intro field member
    exact item.hasField_of_mem_appended member
  · intro later
    refine ⟨(item.appendMissing_append additions later).symm, ?_⟩
    rw [missingCount, missingCount, missingCount, Field.missing_append, List.length_append]
    rfl
  · exact appendMissing_of_hasField fun _ member => item.hasField_of_mem_appended member
  · exact appendMissing_of_hasField fun _ member => Field.present_of_mem member
  · intro lists reordered perm name
    rw [hasField_foldl_appendMissing, hasField_foldl_appendMissing, perm.any_eq]

/-- A ticket, which has a field and a tag. -/
def ticketItem : Item where
  name := "Ticket"
  kind := .object
  fields := [{ name := "id", shape := some (.leaf true "ID") }]
  tags := ["entity"]

/-- Fields of a ticket: one it has, and two of one name. -/
def seatFields : List Field :=
  [{ name := "seat", shape := some (.leaf true "String") },
   { name := "id" },
   { name := "seat", shape := some (.leaf false "Int") },
   { name := "price", shape := some (.leaf false "Float") }]

/-- More fields of a ticket, one of them with another shape. -/
def fareFields : List Field :=
  [{ name := "price", shape := some (.leaf true "Money") }, { name := "zone" }]

/-- The first of the two seats and the price are taken up.  The order of the two lists decides the
shape of the price but not which names the ticket has. -/
theorem appendMissing_ticketItem_accumulates :
    ticketItem.appendMissing seatFields =
        { ticketItem with
          fields := ticketItem.fields ++
            [{ name := "seat", shape := some (.leaf true "String") },
             { name := "price", shape := some (.leaf false "Float") }] } ∧
      Field.FirstNew ticketItem.fields seatFields
        [{ name := "seat", shape := some (.leaf true "String") },
         { name := "price", shape := some (.leaf false "Float") }] ∧
      { name := "seat", shape := some (.leaf false "Int") } ∈ seatFields ∧
      (ticketItem.appendMissing seatFields).hasField "seat" = true ∧
      [seatFields, fareFields].Perm [fareFields, seatFields] ∧
      [seatFields, fareFields].foldl appendMissing ticketItem ≠
        [fareFields, seatFields].foldl appendMissing ticketItem ∧
      ∀ name, ([seatFields, fareFields].foldl appendMissing ticketItem).hasField name =
        ([fareFields, seatFields].foldl appendMissing ticketItem).hasField name := by
  obtain ⟨⟨chosen, first, grown, -⟩, there, -, -, -, anyOrder⟩ :=
    appendMissing_accumulates ticketItem seatFields
  have final : ticketItem.appendMissing seatFields =
      { ticketItem with
        fields := ticketItem.fields ++
          [{ name := "seat", shape := some (.leaf true "String") },
           { name := "price", shape := some (.leaf false "Float") }] } := by
    decide
  have same := congrArg Item.fields (grown.symm.trans final)
  rw [List.append_cancel_left same] at first
  have second : { name := "seat", shape := some (.leaf false "Int") } ∈ seatFields := by decide
  have perm : [seatFields, fareFields].Perm [fareFields, seatFields] := List.Perm.swap _ _ _
  exact ⟨final, first, second, there _ second, perm, by decide, anyOrder _ _ perm⟩

end Item

end SchemaDecl
