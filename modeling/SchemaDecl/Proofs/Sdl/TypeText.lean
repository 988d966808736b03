import SchemaDecl.Proofs.Naming
import SchemaDecl.Proofs.Sdl.Reading
import SchemaDecl.Proofs.TypeReference
import SchemaDecl.Sdl.Grammar

/-!
# Types as texts

A shape is written as a text: a leaf as its name, a list as its element between brackets, and an
exclamation mark behind each level that is required.  The texts of shapes are those of the grammar
of type references.  Such a text is read back as the reference of its shape as long as there is room
for its lists, and is refused where the room ends.
-/

namespace SchemaDecl

open Sdl

/-! ## Texts of shapes -/

namespace Shape

/-- The letters behind a level: an exclamation mark if it is required. -/
def bang : Bool → List Char
  | false => []
  | true => ['!']

/-- The letters of a shape. -/
def letters : Shape → List Char
  | leaf notNull name => name.toList ++ bang notNull
  | list notNull element => '[' :: (element.letters ++ ']' :: bang notNull)

/-- The text of a shape. -/
def text (shape : Shape) : String :=
  String.ofList shape.letters

/-- The token behind a level at an offset. -/
def bangTokens (offset : Nat) : Bool → List Token
  | false => []
  | true => [⟨.mark .bang, offset⟩]

/-- The tokens of a shape whose text starts at an offset. -/
def tokens (offset : Nat) : Shape → List Token
  | leaf notNull name =>
      ⟨.name name, offset⟩ :: bangTokens (offset + name.toList.length) notNull
  | list notNull element =>
      let closing := offset + 1 + element.letters.length
      ⟨.mark .bracketLeft, offset⟩ ::
        (element.tokens (offset + 1) ++
          ⟨.mark .bracketRight, closing⟩ :: bangTokens (closing + 1) notNull)

end Shape

/-! ## Reading letters -/

namespace Sdl.Tokens

/-- Put tokens in front. -/
def prepend (items : List Token) (tokens : Tokens) : Tokens :=
  { tokens with items := items ++ tokens.items }

/-- What has been read is passed over. -/
theorem readFrom_skip (offset : Nat) (passed rest : List Char) :
    readFrom offset passed.length (passed ++ rest) = readFrom (offset + passed.length) 0 rest := by
  induction passed generalizing offset with
  | nil => rfl
  | cons char later inductionHypothesis =>
      rw [List.length_cons, List.cons_append, readFrom, inductionHypothesis, Nat.add_assoc,
        Nat.add_comm 1]

/-- A name starts with no character that is passed over. -/
theorem isIgnored_of_isNameStart {char : Char} (start : isNameStart char = true) :
    isIgnored char = false ∧ char ≠ '#' := by
  constructor
  · rw [Bool.eq_false_iff]
    intro ignored
    simp only [isIgnored, Bool.or_eq_true, beq_iff_eq] at ignored
    rcases ignored with ((((rfl | rfl) | rfl) | rfl) | rfl) | rfl <;> cases start
  · rintro rfl
    cases start

/-- A name is read up to the first character that is no part of it. -/
theorem readFrom_name {name : String} (named : IsName name) (offset : Nat) {rest : List Char}
    (ended : ∀ char ∈ rest.head?, isNamePart char = false) :
    readFrom offset 0 (name.toList ++ rest) =
      (readFrom (offset + name.toList.length) 0 rest).cons ⟨.name name, offset⟩ := by
  have parts := named.isNamePart
  have spelled : String.ofList name.toList = name := String.ofList_toList
  unfold IsName Sdl.isName at named
  generalize name.toList = letters at named parts spelled ⊢
  obtain _ | ⟨first, later⟩ := letters
  · cases named
  · rw [Bool.and_eq_true] at named
    rw [List.forall_mem_cons] at parts
    obtain ⟨kept, noComment⟩ := isIgnored_of_isNameStart named.1
    have nothing : rest.takeWhile isNamePart = [] := by
      cases rest with
      | nil => rfl
      | cons char _ => exact List.takeWhile_cons_of_neg (by simp [ended char rfl])
    have word : (later ++ rest).takeWhile isNamePart = later := by
      rw [List.takeWhile_append_of_pos parts.2, nothing, List.append_nil]
    have lexeme : readLexeme first (later ++ rest) = .ok (.name name, later.length + 1) := by
      rw [readLexeme, if_pos named.1, word]
      exact congrArg (fun read => Except.ok (Lexeme.name read, later.length + 1)) spelled
    rw [List.cons_append, readFrom, if_neg (by simp [kept]), if_neg noComment, lexeme]
    dsimp only
    rw [Nat.add_sub_cancel, readFrom_skip, List.length_cons, Nat.add_assoc, Nat.add_comm 1]

end Sdl.Tokens

namespace Shape

theorem readFrom_bang (notNull : Bool) (offset : Nat) (rest : List Char) :
    Tokens.readFrom offset 0 (bang notNull ++ rest) =
      (Tokens.readFrom (offset + (bang notNull).length) 0 rest).prepend
        (bangTokens offset notNull) := by
  cases notNull <;> rfl

/-- The letters of a shape are read as its tokens. -/
theorem readFrom_letters {shape : Shape} (named : IsName shape.leafName) (offset : Nat)
    {rest : List Char}
    (ended : ∀ char ∈ rest.head?, isNamePart char = false) :
    Tokens.readFrom offset 0 (shape.letters ++ rest) =
      (Tokens.readFrom (offset + shape.letters.length) 0 rest).prepend (shape.tokens offset) := by
  induction shape generalizing offset rest with
  | leaf notNull name =>
      have closed : ∀ char ∈ (bang notNull ++ rest).head?, isNamePart char = false := by
        cases notNull with
        | false => exact ended
        | true =>
            rintro char ⟨⟩
            rfl
      have called : IsName name := named
      rw [letters, List.append_assoc, Tokens.readFrom_name called offset closed, readFrom_bang,
        List.length_append, Nat.add_assoc]
      rfl
  | list notNull element inductionHypothesis =>
      have closed : ∀ char ∈ (']' :: (bang notNull ++ rest)).head?, isNamePart char = false := by
        rintro char ⟨⟩
        rfl
      have inside := inductionHypothesis named (offset + 1) closed
      have behind (start : Nat) : Tokens.readFrom start 0 (']' :: (bang notNull ++ rest)) =
          (Tokens.readFrom (start + 1 + (bang notNull).length) 0 rest).prepend
            (⟨.mark .bracketRight, start⟩ :: bangTokens (start + 1) notNull) := by
        change (Tokens.readFrom (start + 1) 0 (bang notNull ++ rest)).cons _ = _
        rw [readFrom_bang]
        rfl
      have size : offset + (letters (list notNull element)).length =
          offset + 1 + element.letters.length + 1 + (bang notNull).length := by
        simp only [letters, List.length_cons, List.length_append]
        omega
      calc Tokens.readFrom offset 0 ((list notNull element).letters ++ rest)
          = (Tokens.readFrom (offset + 1) 0
              (element.letters ++ ']' :: (bang notNull ++ rest))).cons
              ⟨.mark .bracketLeft, offset⟩ := by
            rw [letters, List.cons_append, List.append_assoc]
            rfl
        _ = _ := by
            rw [inside, behind, size]
            simp [Tokens.cons, Tokens.prepend, tokens]

end Shape

/-! ## Reading tokens -/

namespace Sdl.Reader

open Tokens

/-- Without a fault behind them all tokens can be passed over. -/
theorem passes_cons (lexeme : Lexeme) (offset : Nat) (rest : List Token) (last : Nat) :
    Passes lexeme ⟨⟨lexeme, offset⟩ :: rest, ⟨none, last⟩⟩ ⟨rest, ⟨none, last⟩⟩ :=
  ⟨rfl, checkHead_of_clean rfl⟩

theorem skipMark_cons (mark : Mark) (offset : Nat) (rest : List Token) (last : Nat) :
    skipMark mark ⟨⟨.mark mark, offset⟩ :: rest, ⟨none, last⟩⟩ =
      .ok (true, ⟨rest, ⟨none, last⟩⟩) :=
  (skipMark_eq_ok_iff _ _ _).2 (Or.inl ⟨rfl, passes_cons _ offset rest last⟩)

theorem skipMark_of_ne {mark : Mark} {tokens : Tokens}
    (other : tokens.head? ≠ some (.mark mark)) :
    skipMark mark tokens = .ok (false, tokens) :=
  (skipMark_eq_ok_iff _ _ _).2 (Or.inr ⟨rfl, other, rfl⟩)

end Sdl.Reader

namespace Shape

open Reader

variable {last : Nat}

theorem offset_tokens (shape : Shape) (offset : Nat) (rest : List Token) (ending : Ending) :
    Tokens.offset ⟨shape.tokens offset ++ rest, ending⟩ = offset := by
  cases shape <;> rfl

/-- A reference, in a wrapper for required values if an exclamation mark follows. -/
def wrapped (inner : TypeRef) : Reader TypeRef := do
  if ← skipMark .bang then return .nonNull inner else return inner

/-- The exclamation mark behind a level is read with it. -/
theorem wrapped_bangTokens (notNull : Bool) (inner : TypeRef) (offset : Nat) {rest : List Token}
    (ended : rest.head?.map Token.lexeme ≠ some (.mark .bang)) :
    wrapped inner ⟨bangTokens offset notNull ++ rest, ⟨none, last⟩⟩ =
      .ok (if notNull then .nonNull inner else inner, ⟨rest, ⟨none, last⟩⟩) := by
  cases notNull with
  | false =>
      have absent : Tokens.head? ⟨rest, ⟨none, last⟩⟩ ≠ some (.mark .bang) := ended
      exact bind_of_ok (skipMark_of_ne absent)
  | true => exact bind_of_ok (skipMark_cons .bang offset rest last)

theorem typeRefWith_name (element : Option (Reader TypeRef)) (name : String) (offset : Nat)
    (rest : List Token) :
    typeRefWith element ⟨⟨.name name, offset⟩ :: rest, ⟨none, last⟩⟩ =
      wrapped (.named name) ⟨rest, ⟨none, last⟩⟩ := by
  have noList : Tokens.head? ⟨⟨.name name, offset⟩ :: rest, ⟨none, last⟩⟩ ≠
      some (.mark .bracketLeft) := nofun
  rw [typeRefWith, bind_of_ok (skipMark_of_ne noList)]
  have read : namedType ⟨⟨.name name, offset⟩ :: rest, ⟨none, last⟩⟩ =
      .ok (.named name, ⟨rest, ⟨none, last⟩⟩) := by
    have named := (name_eq_ok_iff name _).2 (Reader.passes_cons (.name name) offset rest last)
    change (Reader.name _).map _ = _
    rw [named]
    rfl
  exact bind_of_ok read

theorem typeRefWith_list {element : Reader TypeRef} {inner : TypeRef} (offset closing : Nat)
    {items rest : List Token}
    (read : element ⟨items, ⟨none, last⟩⟩ =
      .ok (inner, ⟨⟨.mark .bracketRight, closing⟩ :: rest, ⟨none, last⟩⟩)) :
    typeRefWith (some element) ⟨⟨.mark .bracketLeft, offset⟩ :: items, ⟨none, last⟩⟩ =
      wrapped (.list inner) ⟨rest, ⟨none, last⟩⟩ := by
  rw [typeRefWith, bind_of_ok (skipMark_cons .bracketLeft offset items last)]
  have closed := (expectMark_eq_ok_iff .bracketRight () _).2
    (passes_cons (.mark .bracketRight) closing rest last)
  exact (bind_of_ok read).trans (bind_of_ok closed)

/-- A fault in an element is one in its list. -/
theorem typeRefWith_error {element : Reader TypeRef} {fault : Fault} (offset : Nat)
    {items : List Token}
    (refused : element ⟨items, ⟨none, last⟩⟩ = .error fault) :
    typeRefWith (some element) ⟨⟨.mark .bracketLeft, offset⟩ :: items, ⟨none, last⟩⟩ =
      .error fault := by
  rw [typeRefWith, bind_of_ok (skipMark_cons .bracketLeft offset items last)]
  exact bind_of_error refused

theorem typeRefWith_none (offset : Nat) (items : List Token) :
    typeRefWith none ⟨⟨.mark .bracketLeft, offset⟩ :: items, ⟨none, last⟩⟩ =
      .error ⟨.nestedTooDeeply, Tokens.offset ⟨items, ⟨none, last⟩⟩⟩ := by
  rw [typeRefWith, bind_of_ok (skipMark_cons .bracketLeft offset items last)]
  rfl

theorem reference_leaf (notNull : Bool) (name : String) :
    (leaf notNull name).reference =
      if notNull then .nonNull (.named name) else .named name := by
  cases notNull <;> rfl

theorem reference_list (notNull : Bool) (element : Shape) :
    (list notNull element).reference =
      if notNull then .nonNull (.list element.reference) else .list element.reference := by
  cases notNull <;> rfl

/-- The reference of a shape is read from its tokens if there is room for its lists. -/
theorem typeRefIn_tokens {shape : Shape} {room : Nat} (fits : shape.depth ≤ room) (offset : Nat)
    {rest : List Token}
    (ended : rest.head?.map Token.lexeme ≠ some (.mark .bang)) :
    typeRefIn room ⟨shape.tokens offset ++ rest, ⟨none, last⟩⟩ =
      .ok (shape.reference, ⟨rest, ⟨none, last⟩⟩) := by
  induction shape generalizing room offset rest with
  | leaf notNull name =>
      have read (element : Option (Reader TypeRef)) :
          typeRefWith element ⟨(leaf notNull name).tokens offset ++ rest, ⟨none, last⟩⟩ =
            .ok ((leaf notNull name).reference, ⟨rest, ⟨none, last⟩⟩) := by
        rw [tokens, List.cons_append, typeRefWith_name, wrapped_bangTokens _ _ _ ended,
          reference_leaf]
      cases room <;> exact read _
  | list notNull element inductionHypothesis =>
      obtain _ | room := room
      · cases fits
      · have inside (closing : Nat) (behind : List Token) :
            typeRefIn room ⟨element.tokens (offset + 1) ++ ⟨.mark .bracketRight, closing⟩ :: behind,
                ⟨none, last⟩⟩ =
              .ok (element.reference, ⟨⟨.mark .bracketRight, closing⟩ :: behind, ⟨none, last⟩⟩) :=
          inductionHypothesis (Nat.le_of_succ_le_succ fits) (offset + 1) nofun
        rw [typeRefIn, tokens, List.cons_append, List.append_assoc, List.cons_append,
          typeRefWith_list _ _ (inside _ _), wrapped_bangTokens _ _ _ ended, reference_list]

/-- A shape with more lists than there is room for is refused behind the first bracket without
room. -/
theorem typeRefIn_tokens_of_lt {shape : Shape} {room : Nat} (deep : room < shape.depth)
    (offset : Nat) (rest : List Token) :
    typeRefIn room ⟨shape.tokens offset ++ rest, ⟨none, last⟩⟩ =
      .error ⟨.nestedTooDeeply, offset + room + 1⟩ := by
  induction shape generalizing room offset rest with
  | leaf notNull name => cases deep
  | list notNull element inductionHypothesis =>
      rw [tokens, List.cons_append, List.append_assoc]
      obtain _ | room := room
      · rw [typeRefIn, typeRefWith_none, offset_tokens]
      · have inside := inductionHypothesis (Nat.lt_of_succ_lt_succ deep) (offset + 1)
        rw [typeRefIn, typeRefWith_error _ (inside _)]
        congr 2
        omega

/-! ## Reading texts -/

theorem ofText_text_eq {shape : Shape} (named : IsName shape.leafName) :
    Tokens.ofText shape.text = ⟨shape.tokens 0, ⟨none, shape.letters.length⟩⟩ := by
  have nothing : ∀ char ∈ ([] : List Char).head?, isNamePart char = false := nofun
  have read := readFrom_letters named 0 nothing
  rw [List.append_nil, Nat.zero_add] at read
  rw [Tokens.ofText, text, String.toList_ofList, read]
  simp [Tokens.readFrom, Tokens.prepend]

/-- The text of a shape is read as the reference of the shape if its lists are not nested too
deeply. -/
theorem ofText_text {shape : Shape}
    (named : IsName shape.leafName)
    (fits : shape.depth ≤ maxNesting) :
    TypeRef.ofText shape.text = .ok shape.reference := by
  have read : typeRef ⟨shape.tokens 0 ++ [], ⟨none, shape.letters.length⟩⟩ =
      .ok (shape.reference, ⟨[], ⟨none, shape.letters.length⟩⟩) :=
    typeRefIn_tokens fits 0 nofun
  rw [List.append_nil] at read
  rw [TypeRef.ofText, ofText_text_eq named, run_eq_ok_iff]
  exact ⟨fun _ => rfl, _, bind_of_ok read⟩

/-- Otherwise it is refused behind the first bracket that is too many. -/
theorem ofText_text_of_lt {shape : Shape}
    (named : IsName shape.leafName)
    (deep : maxNesting < shape.depth) :
    TypeRef.ofText shape.text = .error ⟨.nestedTooDeeply, maxNesting + 1⟩ := by
  have refused : typeRef ⟨shape.tokens 0 ++ [], ⟨none, shape.letters.length⟩⟩ =
      .error ⟨.nestedTooDeeply, 0 + maxNesting + 1⟩ :=
    typeRefIn_tokens_of_lt deep 0 []
  rw [List.append_nil, Nat.zero_add] at refused
  rw [TypeRef.ofText, ofText_text_eq named]
  exact run_eq_error rfl (bind_of_error refused)

end Shape

/-! ## The grammar -/

mutual

/-- The texts of the rule `T ::= N | N!`. -/
inductive IsTypeText : List Char → Prop
  | nullable {text : List Char} (inner : IsNullableText text) : IsTypeText text
  | required {text : List Char} (inner : IsNullableText text) : IsTypeText (text ++ ['!'])

/-- The texts of the rule `N ::= Name | [T]`. -/
inductive IsNullableText : List Char → Prop
  | name {text : List Char} (named : Sdl.isName text = true) : IsNullableText text
  | list {text : List Char} (element : IsTypeText text) : IsNullableText ('[' :: (text ++ [']']))

end

namespace Shape

mutual

theorem exists_of_isTypeText {text : List Char} :
    IsTypeText text → ∃ shape : Shape, IsName shape.leafName ∧ shape.letters = text
  | .nullable inner => (exists_of_isNullableText inner false).imp fun _ found =>
      ⟨found.1, found.2.trans (List.append_nil _)⟩
  | .required inner => exists_of_isNullableText inner true

theorem exists_of_isNullableText {text : List Char} :
    IsNullableText text → ∀ notNull, ∃ shape : Shape, IsName shape.leafName ∧
      shape.letters = text ++ bang notNull
  | .name named, notNull =>
      ⟨leaf notNull (String.ofList text), by rwa [leafName_leaf, IsName, String.toList_ofList],
        by rw [letters, String.toList_ofList]⟩
  | .list element, notNull => by
      obtain ⟨shape, named, rfl⟩ := exists_of_isTypeText element
      exact ⟨list notNull shape, named, by simp [letters]⟩

end

theorem isTypeText_append_bang {text : List Char} (inner : IsNullableText text) (notNull : Bool) :
    IsTypeText (text ++ bang notNull) := by
  cases notNull with
  | false => exact (List.append_nil text).symm ▸ .nullable inner
  | true => exact .required inner

/-- The texts of shapes are those of the grammar. -/
theorem isTypeText_iff (text : List Char) :
    IsTypeText text ↔ ∃ shape : Shape, IsName shape.leafName ∧ shape.letters = text := by
  refine ⟨exists_of_isTypeText, ?_⟩
  rintro ⟨shape, named, rfl⟩
  induction shape with
  | leaf notNull name => exact isTypeText_append_bang (.name named) notNull
  | list notNull element inductionHypothesis =>
      have inner := isTypeText_append_bang (.list (inductionHypothesis named)) notNull
      rwa [List.cons_append, List.append_assoc, List.singleton_append] at inner

/-- Each list of a shape has one opening bracket. -/
theorem count_letters {shape : Shape} (named : IsName shape.leafName) :
    shape.letters.count '[' = shape.depth := by
  have none (notNull : Bool) : (bang notNull).count '[' = 0 := by cases notNull <;> rfl
  induction shape with
  | leaf notNull name =>
      have called : IsName name := named
      rw [letters, List.count_append, none, List.count_eq_zero.2 (called.not_mem rfl)]
      rfl
  | list notNull element inductionHypothesis =>
      rw [letters, List.count_cons_self, List.count_append, inductionHypothesis named,
        List.count_cons_of_ne (by decide), none]
      rfl

end Shape

/-- Shapes and texts of types go over into each other up to `maxNesting` nested lists.  The text of
such a shape is read as a reference of the shape, and such a text of the grammar is read as a
reference whose shape has that text.  With more lists the text is refused where the room ends. -/
theorem TypeRef.ofText_roundTrip :
    (∀ shape : Shape, IsName shape.leafName →
      (shape.depth ≤ maxNesting →
        ∃ reference, TypeRef.ofText shape.text = .ok reference ∧ reference.shape = .ok shape) ∧
      (maxNesting < shape.depth →
        TypeRef.ofText shape.text = .error ⟨.nestedTooDeeply, maxNesting + 1⟩)) ∧
    ∀ text : String, IsTypeText text.toList →
      (text.toList.count '[' ≤ maxNesting →
        ∃ reference shape, TypeRef.ofText text = .ok reference ∧ reference.shape = .ok shape ∧
          shape.text = text) ∧
      (maxNesting < text.toList.count '[' →
        TypeRef.ofText text = .error ⟨.nestedTooDeeply, maxNesting + 1⟩) := by
  constructor
  · intro shape named
    exact ⟨fun fits => ⟨shape.reference, shape.ofText_text named fits, shape.shape_reference⟩,
      Shape.ofText_text_of_lt named⟩
  · intro text typed
    obtain ⟨shape, named, same⟩ := (Shape.isTypeText_iff text.toList).1 typed
    have written : shape.text = text := by rw [Shape.text, same, String.ofList_toList]
    rw [← same, Shape.count_letters named, ← written]
    exact ⟨fun fits => ⟨shape.reference, shape, Shape.ofText_text named fits,
      shape.shape_reference, rfl⟩, Shape.ofText_text_of_lt named⟩

/-- Lists of required lists of integers, of which each is required. -/
def matrixShape : Shape :=
  .list false (.list true (.leaf true "Int"))

theorem TypeRef.ofText_matrixShape_roundTrip :
    IsName matrixShape.leafName ∧ matrixShape.depth ≤ maxNesting ∧
      ∃ reference, TypeRef.ofText "[[Int!]!]" = .ok reference ∧
        reference.shape = .ok matrixShape := by
  have named : IsName matrixShape.leafName := by decide
  have fits : matrixShape.depth ≤ maxNesting := by decide
  have written : matrixShape.text = "[[Int!]!]" := by decide
  exact ⟨named, fits, written ▸ (TypeRef.ofText_roundTrip.1 matrixShape named).1 fits⟩

/-- Integers in the given number of lists. -/
def nestedLists : Nat → Shape
  | 0 => .leaf false "Int"
  | depth + 1 => .list false (nestedLists depth)

theorem depth_nestedLists (depth : Nat) : (nestedLists depth).depth = depth := by
  induction depth with
  | zero => rfl
  | succ depth inductionHypothesis => rw [nestedLists, Shape.depth_list, inductionHypothesis]

theorem leafName_nestedLists (depth : Nat) : (nestedLists depth).leafName = "Int" := by
  induction depth with
  | zero => rfl
  | succ depth inductionHypothesis => rw [nestedLists, Shape.leafName_list, inductionHypothesis]

/-- One list more than there is room for is a shape with a text of the grammar that cannot be read.
-/
theorem TypeRef.ofText_nestedLists_ne_ok :
    IsName (nestedLists (maxNesting + 1)).leafName ∧
      IsTypeText (nestedLists (maxNesting + 1)).text.toList ∧
      ∀ reference, TypeRef.ofText (nestedLists (maxNesting + 1)).text ≠ .ok reference := by
  have named : IsName (nestedLists (maxNesting + 1)).leafName := by
    rw [leafName_nestedLists]
    decide
  refine ⟨named, ?_, ?_⟩
  · rw [Shape.text, String.toList_ofList, Shape.isTypeText_iff]
    exact ⟨_, named, rfl⟩
  · intro reference
    rw [Shape.ofText_text_of_lt named ((depth_nestedLists _).symm ▸ Nat.lt_succ_self _)]
    nofun

end SchemaDecl
