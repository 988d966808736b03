import SchemaDecl.Proofs.Legibility

/-!
# Paragraphs of a file

A file is made of paragraphs: one that imports namespaces, one that names its own, and one for each
declaration.
-/

namespace SchemaDecl

open CodeText Joining

namespace Declaration

/-- The line that imports a namespace. -/
def usingLine (name : CodeText) : CodeText :=
  "using " ++ name ++ ";"

/-- The line that names the namespace of the file. -/
def namespaceLine (name : CodeText) : CodeText :=
  "namespace " ++ name ++ ";"

/-- The paragraph that imports namespaces, if there are any to import. -/
def usingsParagraphs (config : Config) : List (List CodeText) :=
  if config.usings = [] then [] else [config.usings.map usingLine]

/-- The paragraph that names the namespace, if it has a name. -/
def namespaceParagraphs (config : Config) : List (List CodeText) :=
  match config.namespaceName with
  | none => []
  | some name => if name = .empty then [] else [[namespaceLine name]]

/-- The paragraphs of a file. -/
def fileParagraphs (config : Config) (declarations : List Declaration) : List (List CodeText) :=
  usingsParagraphs config ++ namespaceParagraphs config ++ declarations.map (lines config)

theorem isParagraph_usings {config : Config} (oneLine : config.OneLine) :
    ∀ paragraph ∈ usingsParagraphs config, IsParagraph paragraph := by
  unfold usingsParagraphs
  split
  · exact List.forall_mem_nil _
  · rename_i nonempty
    rw [List.forall_mem_singleton]
    refine ⟨mt List.map_eq_nil_iff.1 nonempty, ?_⟩
    rw [List.forall_mem_map]
    intro name member
    have imported : ("using " ++ name : CodeText).Filled :=
      Filled.append (by decide) (oneLine.usings name member)
    exact imported.append (by decide)

theorem isParagraph_namespace {config : Config} (oneLine : config.OneLine) :
    ∀ paragraph ∈ namespaceParagraphs config, IsParagraph paragraph := by
  unfold namespaceParagraphs
  split
  · exact List.forall_mem_nil _
  · rename_i name isName
    split
    · exact List.forall_mem_nil _
    · rw [List.forall_mem_singleton]
      refine ⟨List.cons_ne_nil _ _, ?_⟩
      rw [List.forall_mem_singleton]
      have named : ("namespace " ++ name : CodeText).Filled :=
        Filled.append (by decide) (oneLine.namespaceName name isName)
      exact named.append (by decide)

theorem isParagraph_fileParagraphs {config : Config} {declarations : List Declaration}
    (oneLine : config.OneLine)
    (legible : ∀ declaration ∈ declarations, declaration.Legible) :
    ∀ paragraph ∈ fileParagraphs config declarations, IsParagraph paragraph := by
  simp only [fileParagraphs, List.forall_mem_append, List.forall_mem_map]
  refine ⟨⟨isParagraph_usings oneLine, isParagraph_namespace oneLine⟩, ?_⟩
  intro declaration member
  exact (legible declaration member).isParagraph oneLine

/-! ## The text before its end is put in order -/

/-- The characters of a paragraph. -/
def written (paragraph : List CodeText) : List CodePoint :=
  (CodeText.intercalate "\n" paragraph).points

/-- The line breaks between paragraphs. -/
def gap : List CodePoint :=
  [.character '\n', .character '\n']

theorem written_singleton (line : CodeText) : written [line] = line.points := by
  rw [written, points_intercalate, List.map_singleton, List.intercalate_singleton]

/-- The imports end in line breaks of their own, and one more sets them apart. -/
theorem points_usings {names : List CodeText} (nonempty : names ≠ []) :
    (CodeText.join (names.map fun name => "using " ++ name ++ ";\n") ++ "\n" : CodeText).points =
      written (names.map usingLine) ++ gap := by
  have ended (name : CodeText) :
      ("using " ++ name ++ ";\n" : CodeText).points =
        (usingLine name).points ++ [CodePoint.character '\n'] := by
    have words : ofString ";\n" = ";" ++ "\n" := by decide
    rw [words, ← CodeText.append_assoc]
    rfl
  have someLines : (names.map usingLine).map points ≠ [] := by
    rw [List.map_map]
    exact mt List.map_eq_nil_iff.1 nonempty
  have joined : (names.flatMap fun name => (usingLine name).points ++ [.character '\n']) =
      written (names.map usingLine) ++ [.character '\n'] := by
    have each := @flatMap_append_eq_intercalate _ [CodePoint.character '\n'] _ someLines
    rw [List.flatMap_map, List.flatMap_map] at each
    exact each
  rw [points_append, CodeText.join, List.flatMap_map]
  simp only [ended]
  rw [joined, List.append_assoc]
  rfl

/-- Each paragraph of the preamble comes with line breaks after it. -/
theorem points_preamble (config : Config) :
    (preamble config).points =
      (usingsParagraphs config ++ namespaceParagraphs config).flatMap fun paragraph =>
        written paragraph ++ gap := by
  have usings : (if config.usings = [] then CodeText.empty
      else CodeText.join (config.usings.map fun name => "using " ++ name ++ ";\n") ++ "\n").points =
      (usingsParagraphs config).flatMap fun paragraph => written paragraph ++ gap := by
    unfold usingsParagraphs
    split
    · rfl
    · rename_i nonempty
      rw [points_usings nonempty, List.flatMap_singleton]
  have ended (name : CodeText) :
      (namespaceLine name).points ++ gap = ("namespace " ++ name ++ ";\n\n" : CodeText).points := by
    have words : ofString ";\n\n" = ";" ++ "\n\n" := by decide
    rw [words, ← CodeText.append_assoc]
    rfl
  rw [List.flatMap_append, ← usings]
  unfold preamble namespaceParagraphs
  dsimp only
  cases config.namespaceName with
  | none => exact (List.append_nil _).symm
  | some name =>
      dsimp only
      split
      · exact (List.append_nil _).symm
      · rw [List.flatMap_singleton, written_singleton, ended, CodeText.append_assoc,
          CodeText.append_assoc, ← CodeText.append_assoc "namespace "]
        rfl

theorem points_declarations (config : Config) (declarations : List Declaration) :
    (CodeText.intercalate "\n\n" (declarations.map (·.text config))).points =
      gap.intercalate ((declarations.map (lines config)).map written) := by
  simp only [text_eq_intercalate_lines]
  rw [points_intercalate, List.map_map, List.map_map]
  rfl

theorem points_ofParagraphs {paragraphs : List (List CodeText)}
    (all : ∀ paragraph ∈ paragraphs, IsParagraph paragraph) :
    (ofParagraphs paragraphs).points = gap.intercalate (paragraphs.map written) := by
  rw [ofParagraphs_eq_intercalate all, points_intercalate, List.map_map]
  rfl

/-- The text is the paragraphs, with line breaks after them if there are no declarations. -/
theorem exists_points_unended {config : Config} {declarations : List Declaration}
    (paragraphs : ∀ paragraph ∈ fileParagraphs config declarations, IsParagraph paragraph)
    (nonempty : fileParagraphs config declarations ≠ []) :
    ∃ ends, (preamble config ++ .intercalate "\n\n" (declarations.map (·.text config))).points =
        (ofParagraphs (fileParagraphs config declarations)).points ++ ends ∧
      ∀ point ∈ ends, point = .character '\n' := by
  rw [points_append, points_preamble, points_declarations, points_ofParagraphs paragraphs,
    fileParagraphs, List.map_append, ← List.flatMap_map written fun part => part ++ gap]
  by_cases nothing : declarations = []
  · refine ⟨gap, ?_, by decide⟩
    rw [fileParagraphs, nothing, List.map_nil, List.append_nil] at nonempty
    rw [nothing, List.map_nil, List.map_nil, List.append_nil,
      flatMap_append_eq_intercalate (mt List.map_eq_nil_iff.1 nonempty)]
    exact List.append_nil _
  · refine ⟨[], ?_, List.forall_mem_nil _⟩
    rw [flatMap_append_intercalate, List.append_nil]
    rw [List.map_map]
    exact mt List.map_eq_nil_iff.1 nothing

/-! ## The text -/

/-- Of the line breaks at the end one is left. -/
theorem endLine_append {content ends : List CodePoint} {last : CodePoint}
    (marked : last ≠ .character '\n')
    (onlyEnds : ∀ point ∈ ends, point = .character '\n') :
    endLine ⟨content ++ [last] ++ ends⟩ = ⟨content ++ [last]⟩ ++ "\n" := by
  have dropped : ∀ point ∈ ends.reverse, (point == CodePoint.character '\n') = true := by
    intro point member
    exact beq_iff_eq.2 (onlyEnds point (List.mem_reverse.1 member))
  have kept : ¬(last == CodePoint.character '\n') = true := mt beq_iff_eq.1 marked
  unfold endLine
  dsimp only
  rw [List.reverse_append, List.dropWhile_append_of_pos dropped, List.reverse_append,
    List.reverse_singleton, List.singleton_append, List.dropWhile_cons, if_neg kept,
    List.reverse_cons, List.reverse_reverse]
  rfl

/-- The text of a declaration ends in the closing brace. -/
theorem exists_points_text (config : Config) (declaration : Declaration) :
    ∃ content, (declaration.text config).points = content ++ [.character '\x7d'] := by
  rw [text_eq_intercalate_lines, points_intercalate, lines, List.map_append]
  exact exists_intercalate_concat _ _ _

/-- An empty line follows each declaration before the last. -/
theorem intercalate_text_concat (config : Config) (declarations : List Declaration)
    (last : Declaration) :
    CodeText.intercalate "\n\n" ((declarations ++ [last]).map (·.text config)) =
      .join (declarations.map fun declaration => declaration.text config ++ "\n\n") ++
        last.text config := by
  ext1
  rw [points_append, points_intercalate, List.map_append, List.map_append, List.map_singleton,
    List.map_singleton, ← flatMap_append_intercalate (List.cons_ne_nil _ _),
    List.intercalate_singleton, CodeText.join, List.map_map, List.flatMap_map, List.flatMap_map]
  rfl

/-- A text that ends in a declaration gets a line break. -/
theorem endLine_append_text (front : CodeText) (config : Config) (declaration : Declaration) :
    front ++ declaration.text config ≠ .empty ∧
      endLine (front ++ declaration.text config) = front ++ declaration.text config ++ "\n" := by
  obtain ⟨content, closed⟩ := exists_points_text config declaration
  have points : front ++ declaration.text config =
      ⟨front.points ++ content ++ [.character '\x7d']⟩ := by
    ext1
    rw [points_append, closed, List.append_assoc]
  have marked : CodePoint.character '\x7d' ≠ .character '\n' := by decide
  have ended : endLine ⟨front.points ++ content ++ [.character '\x7d'] ++ []⟩ = _ :=
    endLine_append marked (List.forall_mem_nil _)
  rw [List.append_nil] at ended
  rw [points]
  refine ⟨?_, ended⟩
  intro nothing
  simp [CodeText.empty] at nothing

/-- The last declaration of a file ends its text. -/
theorem fileText_concat (config : Config) (declarations : List Declaration) (last : Declaration) :
    fileText config (declarations ++ [last]) =
      preamble config ++
        .join (declarations.map fun declaration => declaration.text config ++ "\n\n") ++
        last.text config ++ "\n" := by
  unfold fileText
  dsimp only
  rw [intercalate_text_concat, ← CodeText.append_assoc]
  obtain ⟨someText, ended⟩ := endLine_append_text (preamble config ++
    .join (declarations.map fun declaration => declaration.text config ++ "\n\n")) config last
  rw [if_neg someText, ended]

/-- A file holds its paragraphs. -/
theorem holds_fileText {config : Config} {declarations : List Declaration}
    (paragraphs : ∀ paragraph ∈ fileParagraphs config declarations, IsParagraph paragraph) :
    (fileText config declarations).Holds (fileParagraphs config declarations) := by
  unfold fileText
  dsimp only
  by_cases nothing : fileParagraphs config declarations = []
  · rw [nothing]
    rw [fileParagraphs, List.append_eq_nil_iff, List.map_eq_nil_iff] at nothing
    have noText : preamble config ++ .intercalate "\n\n" (declarations.map (·.text config)) =
        .empty := by
      ext1
      rw [points_append, points_preamble, nothing.1, nothing.2]
      rfl
    rw [if_pos noText]
    exact .nothing
  · obtain ⟨ends, unended, onlyEnds⟩ := exists_points_unended paragraphs nothing
    obtain ⟨before, last, points, marked⟩ := exists_points_ofParagraphs paragraphs nothing
    rw [points] at unended
    have someText : preamble config ++ .intercalate "\n\n" (declarations.map (·.text config)) ≠
        .empty := by
      intro same
      rw [same, List.append_assoc] at unended
      exact List.append_ne_nil_of_right_ne_nil before (List.cons_ne_nil last ends) unended.symm
    have holds := Holds.paragraphs (ofParagraphs (fileParagraphs config declarations))
    rw [paragraphs_ofParagraphs paragraphs nothing] at holds
    rw [if_neg someText, CodeText.ext unended, endLine_append marked onlyEnds, ← points]
    exact holds

end Declaration

end SchemaDecl
