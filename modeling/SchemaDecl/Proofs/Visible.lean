import SchemaDecl.Member
import SchemaDecl.Proofs.Joining
import SchemaDecl.Proofs.Naming

/-!
# Visible texts

A text is visible if there are characters in it and all of them are signs of ASCII, so that there is
no blank and no line break in it.  Names are visible, and so is what members are called by.
-/

namespace SchemaDecl

namespace Text

/-- Whether a character is in ASCII and neither a blank nor a control character. -/
def isSign (char : Char) : Bool :=
  0x20 < char.toNat && char.toNat < 0x7F

/-- The text has signs in it and nothing else. -/
def Visible (text : List Char) : Prop :=
  text ≠ [] ∧ ∀ char ∈ text, isSign char = true

instance (text : List Char) : Decidable (Visible text) :=
  decidable_of_iff (text ≠ [] ∧ text.all isSign = true) (and_congr_right' List.all_eq_true)

theorem lt_of_isSign {char : Char} (sign : isSign char = true) : char.toNat < 128 := by
  simp only [isSign, Bool.and_eq_true, decide_eq_true_eq] at sign
  omega

/-- A property of signs can be checked sign by sign. -/
theorem forall_isSign {property : Char → Prop}
    (checked : ∀ code < 128, isSign (Char.ofNat code) = true → property (Char.ofNat code))
    {char : Char}
    (sign : isSign char = true) :
    property char := by
  have holds := checked char.toNat (lt_of_isSign sign)
  rw [Char.ofNat_toNat] at holds
  exact holds sign

theorem isSign_toUpper {char : Char} (sign : isSign char = true) : isSign char.toUpper = true :=
  @forall_isSign (fun char => isSign char.toUpper = true) (by decide) char sign

theorem isSign_toLower {char : Char} (sign : isSign char = true) : isSign char.toLower = true :=
  @forall_isSign (fun char => isSign char.toLower = true) (by decide) char sign

theorem isSign_of_isNamePart {char : Char} (part : Sdl.isNamePart char = true) :
    isSign char = true := by
  have code : char.toNat = char.val.toNat := rfl
  delta Sdl.isNamePart Char.isAlphanum Char.isAlpha Char.isUpper Char.isLower Char.isDigit at part
  simp only [Bool.or_eq_true, Bool.and_eq_true, decide_eq_true_eq, UInt32.le_iff_toNat_le,
    beq_iff_eq, ge_iff_le] at part
  simp only [isSign, Bool.and_eq_true, decide_eq_true_eq]
  have capitals : 'A'.val.toNat = 65 ∧ 'Z'.val.toNat = 90 := ⟨rfl, rfl⟩
  have smalls : 'a'.val.toNat = 97 ∧ 'z'.val.toNat = 122 := ⟨rfl, rfl⟩
  have digits : '0'.val.toNat = 48 ∧ '9'.val.toNat = 57 := ⟨rfl, rfl⟩
  rcases part with letterOrDigit | rfl
  · omega
  · decide

/-! ## Case -/

theorem Visible.append {left right : List Char}
    (visible : Visible left)
    (signs : ∀ char ∈ right, isSign char = true) :
    Visible (left ++ right) := by
  constructor
  · exact List.append_ne_nil_of_left_ne_nil visible.1 right
  · exact List.forall_mem_append.2 ⟨visible.2, signs⟩

theorem visible_upper {char : Char} (sign : isSign char = true) : Visible (upper char) := by
  rw [upper_ascii (lt_of_isSign sign)]
  exact ⟨List.cons_ne_nil _ _, List.forall_mem_singleton.2 (isSign_toUpper sign)⟩

theorem visible_title {char : Char} (sign : isSign char = true) : Visible (title char) := by
  rw [title_ascii (lt_of_isSign sign), ← upper_ascii (lt_of_isSign sign)]
  exact visible_upper sign

/-- Each sign has one lower-case form, wherever it stands. -/
theorem lowerFrom_eq_map {text : List Char}
    (signs : ∀ char ∈ text, isSign char = true)
    (cased : Bool) :
    lowerFrom cased text = text.map Char.toLower := by
  induction text generalizing cased with
  | nil => rfl
  | cons first rest inductionHypothesis =>
      rw [List.forall_mem_cons] at signs
      have notSigma : first ≠ 'Σ' := by
        rintro rfl
        exact absurd signs.1 (by decide)
      rw [lowerFrom, if_neg notSigma, lower_ascii (lt_of_isSign signs.1),
        inductionHypothesis signs.2]
      rfl

theorem isSign_lowerFrom {text : List Char}
    (signs : ∀ char ∈ text, isSign char = true)
    (cased : Bool) :
    ∀ char ∈ lowerFrom cased text, isSign char = true := by
  rw [lowerFrom_eq_map signs, List.forall_mem_map]
  exact fun char member => isSign_toLower (signs char member)

theorem capitalized_eq_cons {first : Char} {rest : List Char}
    (signs : ∀ char ∈ first :: rest, isSign char = true) :
    capitalized (first :: rest) = first.toUpper :: rest.map Char.toLower := by
  rw [List.forall_mem_cons] at signs
  rw [capitalized, title_ascii (lt_of_isSign signs.1), lowerFrom_eq_map signs.2]
  rfl

theorem Visible.capitalized {text : List Char} (visible : Visible text) :
    Visible (capitalized text) := by
  obtain _ | ⟨first, rest⟩ := text
  · exact absurd rfl visible.1
  · rw [Visible, List.forall_mem_cons] at visible
    exact (visible_title visible.2.1).append (isSign_lowerFrom visible.2.2 _)

end Text

open Text

theorem Sdl.IsName.visible {name : String} (isName : IsName name) : Visible name.toList := by
  constructor
  · exact mt String.toList_eq_nil_iff.1 isName.ne_empty
  · intro char member
    exact isSign_of_isNamePart (isName.isNamePart char member)

theorem Text.Visible.not_mem {text : List Char} (visible : Visible text) {char : Char}
    (blank : isSign char = false) :
    char ∉ text := by
  intro member
  rw [visible.2 char member] at blank
  cases blank

/-! ## Members -/

namespace Member

theorem visible_propertyLetters {name : List Char} (visible : Visible name) :
    Visible (propertyLetters name) := by
  obtain _ | ⟨first, rest⟩ := name
  · exact absurd rfl visible.1
  · rw [Visible, List.forall_mem_cons] at visible
    exact (visible_upper visible.2.1).append visible.2.2

/-- A name in capitals has a word with a letter in it between its underscores. -/
theorem visible_enumerantLetters {name : List Char} (visible : Visible name) (style : MemberStyle) :
    Visible (enumerantLetters style name) := by
  unfold enumerantLetters
  split
  · exact visible_propertyLetters visible
  · rename_i capitals
    simp only [Bool.or_eq_true, decide_eq_true_eq, not_or, Bool.not_eq_true',
      Bool.not_eq_false] at capitals
    have words : ∀ word ∈ name.splitOn '_', word ≠ [] → Visible word := by
      intro word isWord nonempty
      refine ⟨nonempty, ?_⟩
      intro char member
      exact visible.2 char (Joining.mem_of_mem_splitOn isWord member)
    constructor
    · obtain ⟨letter, inName, isCapital⟩ := List.any_eq_true.1 (Bool.and_eq_true_iff.1 capitals.2).1
      have different : letter ≠ '_' := by
        rintro rfl
        exact absurd isCapital (by decide)
      obtain ⟨word, isWord, inWord⟩ := Joining.exists_mem_splitOn inName different
      have capital := (words word isWord (List.ne_nil_of_mem inWord)).capitalized
      intro nothing
      exact capital.1 (List.flatMap_eq_nil_iff.1 nothing word isWord)
    · intro char member
      obtain ⟨word, isWord, inWord⟩ := List.mem_flatMap.1 member
      refine (words word isWord ?_).capitalized.2 char inWord
      rintro rfl
      cases inWord

theorem visible_property {field : String} (visible : Visible field.toList) :
    Visible (property field).toList := by
  rw [toList_property]
  exact visible_propertyLetters visible

theorem visible_enumerant {value : String} (visible : Visible value.toList) (style : MemberStyle) :
    Visible (enumerant style value).toList := by
  rw [toList_enumerant]
  exact visible_enumerantLetters visible style

end Member

end SchemaDecl
