import SchemaDecl.Declaration
import SchemaDecl.Proofs.Joining

/-!
# Lines and paragraphs

A paragraph is a group of lines without an empty line among them.  Paragraphs are written with an
empty line between them, and are found again by splitting the text at its empty lines.
-/

namespace SchemaDecl

attribute [ext] CodeText

namespace CodeText

open Joining

/-- There is no line break in the text. -/
def OneLine (text : CodeText) : Prop :=
  .character '\n' ∉ text.points

instance (text : CodeText) : Decidable text.OneLine :=
  inferInstanceAs (Decidable (.character '\n' ∉ text.points))

theorem OneLine.append {left right : CodeText} (oneLeft : left.OneLine) (oneRight : right.OneLine) :
    (left ++ right).OneLine := by
  intro member
  rcases List.mem_append.1 member with inLeft | inRight
  · exact oneLeft inLeft
  · exact oneRight inRight

theorem append_assoc (first second third : CodeText) :
    first ++ second ++ third = first ++ (second ++ third) :=
  CodeText.ext (List.append_assoc first.points second.points third.points)

theorem oneLine_ofString {text : String} (noLineBreak : '\n' ∉ text.toList) :
    (ofString text).OneLine := by
  intro member
  obtain ⟨char, inText, same⟩ := List.mem_map.1 member
  exact noLineBreak (CodePoint.character.inj same ▸ inText)

theorem append_eq_empty_iff {left right : CodeText} :
    left ++ right = empty ↔ left = empty ∧ right = empty := by
  simp only [CodeText.ext_iff, points_append]
  exact List.append_eq_nil_iff

/-- The text is a line with characters in it. -/
def Filled (text : CodeText) : Prop :=
  text ≠ .empty ∧ text.OneLine

instance (text : CodeText) : Decidable text.Filled :=
  inferInstanceAs (Decidable (text ≠ .empty ∧ text.OneLine))

theorem Filled.append {left right : CodeText} (filled : left.Filled) (oneLine : right.OneLine) :
    (left ++ right).Filled := by
  refine ⟨?_, filled.2.append oneLine⟩
  intro nothing
  exact filled.1 (append_eq_empty_iff.1 nothing).1

theorem OneLine.append_filled {left right : CodeText} (oneLine : left.OneLine)
    (filled : right.Filled) :
    (left ++ right).Filled := by
  refine ⟨?_, oneLine.append filled.2⟩
  intro nothing
  exact filled.1 (append_eq_empty_iff.1 nothing).2

theorem append_left_cancel {left right prior : CodeText} (same : prior ++ left = prior ++ right) :
    left = right :=
  CodeText.ext (List.append_cancel_left (congrArg points same))

theorem append_right_cancel {left right after : CodeText} (same : left ++ after = right ++ after) :
    left = right :=
  CodeText.ext (List.append_cancel_right (congrArg points same))

theorem character_mem_ofString {char : Char} {text : String} :
    .character char ∈ (ofString text).points ↔ char ∈ text.toList := by
  simp

/-! ## Paragraphs -/

/-- The lines of a text. -/
def lines (text : CodeText) : List CodeText :=
  (text.points.splitOn (.character '\n')).map .mk

/-- The groups of lines between the empty lines of a text. -/
def paragraphs (text : CodeText) : List (List CodeText) :=
  text.lines.splitOn .empty

/-- The text is empty if there are no paragraphs.  Otherwise it has these paragraphs and one more
line break. -/
inductive Holds : CodeText → List (List CodeText) → Prop
  | nothing : Holds .empty []
  | paragraphs (content : CodeText) : Holds (content ++ "\n") content.paragraphs

/-- A text holds one list of paragraphs only. -/
theorem Holds.unique {text : CodeText} {left right : List (List CodeText)}
    (holdsLeft : text.Holds left)
    (holdsRight : text.Holds right) :
    left = right := by
  have ended (content : CodeText) : content ++ "\n" ≠ .empty := by
    intro nothing
    exact absurd (append_eq_empty_iff.1 nothing).2 (by decide)
  generalize same : text = other at holdsRight
  cases holdsLeft with
  | nothing =>
      cases holdsRight with
      | nothing => rfl
      | paragraphs content => exact absurd same.symm (ended content)
  | paragraphs content =>
      cases holdsRight with
      | nothing => exact absurd same (ended content)
      | paragraphs other => rw [append_right_cancel same]

/-- There are lines, each with characters in it. -/
structure IsParagraph (lines : List CodeText) : Prop where
  ne_nil : lines ≠ []
  filled : ∀ line ∈ lines, line.Filled

/-- Paragraphs with an empty line between them. -/
def ofParagraphs (paragraphs : List (List CodeText)) : CodeText :=
  .intercalate "\n" ([.empty].intercalate paragraphs)

theorem points_intercalate (separator : CodeText) (texts : List CodeText) :
    (intercalate separator texts).points = separator.points.intercalate (texts.map points) := rfl

theorem lines_intercalate {lines : List CodeText}
    (oneLine : ∀ line ∈ lines, line.OneLine)
    (nonempty : lines ≠ []) :
    (intercalate "\n" lines).lines = lines := by
  have split : ([CodePoint.character '\n'].intercalate (lines.map points)).splitOn
      (.character '\n') = lines.map points := by
    apply List.splitOn_intercalate
    · exact List.forall_mem_map.2 oneLine
    · exact mt List.map_eq_nil_iff.1 nonempty
  change (([CodePoint.character '\n'].intercalate (lines.map points)).splitOn
      (.character '\n')).map CodeText.mk = lines
  rw [split, List.map_map]
  exact List.map_id lines

/-- Paragraphs are found again. -/
theorem paragraphs_ofParagraphs {paragraphs : List (List CodeText)}
    (all : ∀ paragraph ∈ paragraphs, IsParagraph paragraph)
    (nonempty : paragraphs ≠ []) :
    (ofParagraphs paragraphs).paragraphs = paragraphs := by
  have oneLine : ∀ line ∈ [empty].intercalate paragraphs, line.OneLine := by
    intro line member
    rcases mem_of_mem_intercalate member with isEmpty | ⟨paragraph, isParagraph, inParagraph⟩
    · rw [List.mem_singleton.1 isEmpty]
      exact List.not_mem_nil
    · exact ((all paragraph isParagraph).filled line inParagraph).2
  have some : [empty].intercalate paragraphs ≠ [] := by
    obtain _ | ⟨first, rest⟩ := paragraphs
    · exact absurd rfl nonempty
    · obtain ⟨line, member⟩ := List.exists_mem_of_ne_nil first (all first List.mem_cons_self).ne_nil
      exact List.ne_nil_of_mem (mem_intercalate List.mem_cons_self member)
  rw [CodeText.paragraphs, ofParagraphs, lines_intercalate oneLine some]
  refine List.splitOn_intercalate _ ?_ nonempty
  intro paragraph isParagraph isEmpty
  exact ((all paragraph isParagraph).filled empty isEmpty).1 rfl

/-- An empty line stands where a line break follows another. -/
theorem ofParagraphs_eq_intercalate {paragraphs : List (List CodeText)}
    (all : ∀ paragraph ∈ paragraphs, IsParagraph paragraph) :
    ofParagraphs paragraphs = intercalate "\n\n" (paragraphs.map (intercalate "\n")) := by
  ext1
  rw [ofParagraphs, points_intercalate, map_intercalate, points_intercalate, List.map_map]
  change List.intercalate _ ([[]].intercalate _) = _
  rw [intercalate_intercalate, List.map_map]
  · rfl
  · rw [List.forall_mem_map]
    intro paragraph isParagraph
    exact mt List.map_eq_nil_iff.1 (all paragraph isParagraph).ne_nil

/-- The last character of the last paragraph is no line break. -/
theorem exists_points_ofParagraphs {paragraphs : List (List CodeText)}
    (all : ∀ paragraph ∈ paragraphs, IsParagraph paragraph)
    (nonempty : paragraphs ≠ []) :
    ∃ before last, (ofParagraphs paragraphs).points = before ++ [last] ∧
      last ≠ .character '\n' := by
  obtain ⟨otherParagraphs, paragraph, rfl⟩ :=
    (List.eq_nil_or_concat paragraphs).resolve_left nonempty
  rw [List.concat_eq_append] at all ⊢
  have isParagraph := all paragraph (List.mem_append_right _ List.mem_cons_self)
  obtain ⟨otherLines, line, rfl⟩ :=
    (List.eq_nil_or_concat paragraph).resolve_left isParagraph.ne_nil
  rw [List.concat_eq_append] at isParagraph ⊢
  have filled := isParagraph.filled line (List.mem_append_right _ List.mem_cons_self)
  have somePoints : line.points ≠ [] := by
    intro nothing
    exact filled.1 (CodeText.ext nothing)
  obtain ⟨otherPoints, last, points⟩ := (List.eq_nil_or_concat line.points).resolve_left somePoints
  rw [List.concat_eq_append] at points
  obtain ⟨linesBefore, lines⟩ :=
    exists_intercalate_concat [empty] (otherLines ++ [line]) otherParagraphs
  obtain ⟨pointsBefore, text⟩ := exists_intercalate_concat [CodePoint.character '\n'] line.points
    ((linesBefore ++ otherLines).map CodeText.points)
  refine ⟨pointsBefore ++ otherPoints, last, ?_, ?_⟩
  · rw [ofParagraphs, lines, ← List.append_assoc, points_intercalate, List.map_append,
      List.append_assoc, ← points]
    exact text
  · rintro rfl
    apply filled.2
    rw [points]
    exact List.mem_append_right _ List.mem_cons_self

end CodeText

end SchemaDecl
