import Mathlib.Data.List.Basic

/-!
# Joined lists

Lists are joined with a separator between them.  Where the separator does not occur in the parts,
the parts can be told from what they are joined to.
-/

namespace SchemaDecl.Joining

variable {α β : Type}

/-- The part before the first separator and what comes after it. -/
theorem append_cons_inj {separator : α} {left right leftRest rightRest : List α}
    (notInLeft : separator ∉ left)
    (notInRight : separator ∉ right)
    (same : left ++ separator :: leftRest = right ++ separator :: rightRest) :
    left = right ∧ leftRest = rightRest := by
  induction left generalizing right with
  | nil =>
      cases right with
      | nil => exact ⟨rfl, List.tail_eq_of_cons_eq same⟩
      | cons head tail =>
          exact absurd (List.head_eq_of_cons_eq same ▸ List.mem_cons_self) notInRight
  | cons first rest inductionHypothesis =>
      cases right with
      | nil => exact absurd (List.head_eq_of_cons_eq same ▸ List.mem_cons_self) notInLeft
      | cons head tail =>
          rw [List.mem_cons, not_or] at notInLeft notInRight
          obtain ⟨heads, tails⟩ := List.cons.inj same
          obtain ⟨parts, rests⟩ := inductionHypothesis notInLeft.2 notInRight.2 tails
          refine ⟨?_, rests⟩
          rw [heads, parts]

/-- The part after the last separator and what comes before it. -/
theorem append_cons_inj_last {separator : α} {left right leftLast rightLast : List α}
    (notInLeft : separator ∉ leftLast)
    (notInRight : separator ∉ rightLast)
    (same : left ++ separator :: leftLast = right ++ separator :: rightLast) :
    left = right ∧ leftLast = rightLast := by
  have reversed := congrArg List.reverse same
  simp only [List.reverse_append, List.reverse_cons, List.append_assoc, List.cons_append,
    List.nil_append] at reversed
  obtain ⟨lasts, parts⟩ := append_cons_inj (mt List.mem_reverse.1 notInLeft)
    (mt List.mem_reverse.1 notInRight) reversed
  exact ⟨List.reverse_injective parts, List.reverse_injective lasts⟩

/-- Each part but the first comes with the separator before it. -/
theorem intercalate_cons (separator part : List α) (rest : List (List α)) :
    separator.intercalate (part :: rest) =
      part ++ rest.flatMap fun other => separator ++ other := by
  induction rest generalizing part with
  | nil => simp
  | cons next others inductionHypothesis =>
      rw [List.intercalate_cons_cons, inductionHypothesis, List.flatMap_cons]
      simp only [List.append_assoc]

theorem map_intercalate (image : α → β) (separator : List α) (parts : List (List α)) :
    (separator.intercalate parts).map image =
      (separator.map image).intercalate (parts.map (List.map image)) := by
  obtain _ | ⟨first, rest⟩ := parts
  · rfl
  · rw [List.map_cons, intercalate_cons, intercalate_cons, List.map_append, List.map_flatMap,
      List.flatMap_map]
    simp only [List.map_append]

theorem mem_intercalate {element : α} {part separator : List α} {parts : List (List α)}
    (isPart : part ∈ parts)
    (member : element ∈ part) :
    element ∈ separator.intercalate parts := by
  obtain _ | ⟨first, rest⟩ := parts
  · cases isPart
  · rw [intercalate_cons, List.mem_append, List.mem_flatMap]
    rcases List.mem_cons.1 isPart with rfl | later
    · exact .inl member
    · exact .inr ⟨part, later, List.mem_append_right separator member⟩

theorem mem_of_mem_intercalate {element : α} {separator : List α} {parts : List (List α)}
    (member : element ∈ separator.intercalate parts) :
    element ∈ separator ∨ ∃ part ∈ parts, element ∈ part := by
  obtain _ | ⟨first, rest⟩ := parts
  · cases member
  · rw [intercalate_cons, List.mem_append, List.mem_flatMap] at member
    obtain inFirst | ⟨part, isPart, inPart⟩ := member
    · exact .inr ⟨first, List.mem_cons_self, inFirst⟩
    · exact (List.mem_append.1 inPart).imp_right fun inPart =>
        ⟨part, List.mem_cons_of_mem first isPart, inPart⟩

theorem mem_of_mem_splitOn [BEq α] [LawfulBEq α] {element separator : α} {part elements : List α}
    (isPart : part ∈ elements.splitOn separator)
    (member : element ∈ part) :
    element ∈ elements := by
  have joined : [separator].intercalate (elements.splitOn separator) = elements :=
    List.intercalate_splitOn separator
  exact joined ▸ mem_intercalate isPart member

theorem exists_mem_splitOn [BEq α] [LawfulBEq α] {element separator : α} {elements : List α}
    (member : element ∈ elements)
    (different : element ≠ separator) :
    ∃ part ∈ elements.splitOn separator, element ∈ part := by
  have joined : [separator].intercalate (elements.splitOn separator) = elements :=
    List.intercalate_splitOn separator
  rw [← joined] at member
  exact (mem_of_mem_intercalate member).resolve_left (mt List.mem_singleton.1 different)

/-- Parts without the first element of the separator are told from what they are joined to. -/
theorem intercalate_inj {mark : α} {more : List α} {left right : List (List α)}
    (notInLeft : ∀ part ∈ left, mark ∉ part)
    (notInRight : ∀ part ∈ right, mark ∉ part)
    (leftSome : left ≠ [])
    (rightSome : right ≠ [])
    (same : (mark :: more).intercalate left = (mark :: more).intercalate right) :
    left = right := by
  induction left generalizing right with
  | nil => exact absurd rfl leftSome
  | cons first rest inductionHypothesis =>
      cases right with
      | nil => exact absurd rfl rightSome
      | cons head tail =>
          rw [List.forall_mem_cons] at notInLeft notInRight
          have joined (parts others : List α) : parts ++ mark :: more ++ others =
              parts ++ mark :: (more ++ others) := List.append_assoc _ _ _
          cases rest with
          | nil =>
              cases tail with
              | nil => simpa using same
              | cons second others =>
                  rw [List.intercalate_singleton, List.intercalate_cons_cons, joined] at same
                  exact absurd (same ▸ List.mem_append_right _ List.mem_cons_self) notInLeft.1
          | cons next after =>
              cases tail with
              | nil =>
                  rw [List.intercalate_singleton, List.intercalate_cons_cons, joined] at same
                  exact absurd (same ▸ List.mem_append_right _ List.mem_cons_self) notInRight.1
              | cons second others =>
                  rw [List.intercalate_cons_cons, List.intercalate_cons_cons, joined,
                    joined] at same
                  obtain ⟨heads, tails⟩ := append_cons_inj notInLeft.1 notInRight.1 same
                  have others := inductionHypothesis notInLeft.2 notInRight.2
                    (List.cons_ne_nil _ _) (List.cons_ne_nil _ _) (List.append_cancel_left tails)
                  rw [heads, others]

/-- Parts that are each followed by the separator come before parts joined with it. -/
theorem flatMap_append_intercalate {separator : List α} {first second : List (List α)}
    (secondSome : second ≠ []) :
    (first.flatMap fun part => part ++ separator) ++ separator.intercalate second =
      separator.intercalate (first ++ second) := by
  induction first with
  | nil => rfl
  | cons part rest inductionHypothesis =>
      rw [List.flatMap_cons, List.append_assoc, inductionHypothesis, List.cons_append,
        List.intercalate_cons_of_ne_nil (List.append_ne_nil_of_right_ne_nil rest secondSome)]

/-- Parts that are each followed by the separator are joined parts with one more separator. -/
theorem flatMap_append_eq_intercalate {separator : List α} {parts : List (List α)}
    (nonempty : parts ≠ []) :
    (parts.flatMap fun part => part ++ separator) = separator.intercalate parts ++ separator := by
  obtain ⟨front, last, rfl⟩ := (List.eq_nil_or_concat parts).resolve_left nonempty
  rw [List.concat_eq_append, List.flatMap_append,
    ← flatMap_append_intercalate (List.cons_ne_nil last []), List.intercalate_singleton,
    List.flatMap_singleton, List.append_assoc]

theorem intercalate_append {separator : List α} {first second : List (List α)}
    (firstSome : first ≠ [])
    (secondSome : second ≠ []) :
    separator.intercalate (first ++ second) =
      separator.intercalate first ++ separator ++ separator.intercalate second := by
  rw [← flatMap_append_eq_intercalate firstSome, flatMap_append_intercalate secondSome]

/-- What is joined ends in the last part. -/
theorem exists_intercalate_concat (separator last : List α) (parts : List (List α)) :
    ∃ before, separator.intercalate (parts ++ [last]) = before ++ last := by
  by_cases nothing : parts = []
  · refine ⟨[], ?_⟩
    rw [nothing, List.nil_append, List.intercalate_singleton, List.nil_append]
  · refine ⟨separator.intercalate parts ++ separator, ?_⟩
    rw [intercalate_append nothing (List.cons_ne_nil last []), List.intercalate_singleton]

/-- Groups joined with an empty part between them are groups that are joined with the separator
twice between them. -/
theorem intercalate_intercalate {separator : List α} {groups : List (List (List α))}
    (nonempty : ∀ group ∈ groups, group ≠ []) :
    separator.intercalate ([[]].intercalate groups) =
      (separator ++ separator).intercalate (groups.map separator.intercalate) := by
  induction groups with
  | nil => rfl
  | cons group rest inductionHypothesis =>
      rw [List.forall_mem_cons] at nonempty
      cases rest with
      | nil => simp
      | cons next others =>
          have later : [[]].intercalate (next :: others) ≠ [] := by
            cases next with
            | nil => exact absurd rfl (nonempty.2 _ List.mem_cons_self)
            | cons line lines =>
                exact List.ne_nil_of_mem (mem_intercalate List.mem_cons_self List.mem_cons_self)
          rw [List.intercalate_cons_cons, List.append_assoc,
            intercalate_append nonempty.1 (List.append_ne_nil_of_right_ne_nil [[]] later),
            List.singleton_append, List.intercalate_cons_of_ne_nil later,
            inductionHypothesis nonempty.2, List.nil_append]
          simp only [List.map_cons, List.intercalate_cons_cons, List.append_assoc]

/-- Lists are told from their images if their elements are. -/
theorem map_inj_on {image : α → β} {left right : List α}
    (injective : ∀ first ∈ left, ∀ second ∈ right, image first = image second → first = second)
    (same : left.map image = right.map image) :
    left = right := by
  induction left generalizing right with
  | nil => exact (List.map_eq_nil_iff.1 same.symm).symm
  | cons first rest inductionHypothesis =>
      cases right with
      | nil => cases same
      | cons head tail =>
          obtain ⟨heads, tails⟩ := List.cons.inj same
          have later : rest = tail := by
            refine inductionHypothesis ?_ tails
            intro element member other isOther
            exact injective element (List.mem_cons_of_mem first member) other
              (List.mem_cons_of_mem head isOther)
          rw [injective first List.mem_cons_self head List.mem_cons_self heads, later]

end SchemaDecl.Joining
