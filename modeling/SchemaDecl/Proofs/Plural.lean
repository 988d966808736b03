import SchemaDecl.Proofs.Rendering
import SchemaDecl.Proofs.Visible

/-!
# Plurals of names

The plural of a name is a name again.  Each rule for plurals takes letters from the end of the noun
or none, and what it puts there is a name by itself, so whatever is left of the noun still starts
like one.  Neither do the names lose their form when the case of the noun is restored.
-/

namespace SchemaDecl

open Text

namespace Sdl

/-! ## Characters of names -/

/-- A property of the characters of names can be checked character by character. -/
theorem forall_isNamePart {property : Char → Prop}
    (checked : ∀ code < 128, isNamePart (Char.ofNat code) = true → property (Char.ofNat code))
    {char : Char}
    (part : isNamePart char = true) :
    property char := by
  have holds := checked char.toNat (lt_of_isSign (isSign_of_isNamePart part))
  rw [Char.ofNat_toNat] at holds
  exact holds part

theorem isNamePart_toUpper {char : Char} (part : isNamePart char = true) :
    isNamePart char.toUpper = true :=
  @forall_isNamePart (fun char => isNamePart char.toUpper = true) (by decide) char part

theorem isNamePart_toLower {char : Char} (part : isNamePart char = true) :
    isNamePart char.toLower = true :=
  @forall_isNamePart (fun char => isNamePart char.toLower = true) (by decide) char part

/-- Of the characters of names only digits cannot start one, in whichever case. -/
theorem isNameStart_toUpper_iff {char : Char} (part : isNamePart char = true) :
    isNameStart char.toUpper = true ↔ char.isDigit = false :=
  @forall_isNamePart (fun char => isNameStart char.toUpper = true ↔ char.isDigit = false)
    (by decide) char part

theorem not_isDigit_of_isNameStart {char : Char} (start : isNameStart char = true) :
    char.isDigit = false :=
  @forall_isNamePart (fun char => isNameStart char = true → char.isDigit = false) (by decide) char
    (isNamePart_of_isNameStart start) start

theorem isNameStart_toUpper {char : Char} (start : isNameStart char = true) :
    isNameStart char.toUpper = true :=
  (isNameStart_toUpper_iff (isNamePart_of_isNameStart start)).2 (not_isDigit_of_isNameStart start)

/-! ## Letters of names -/

/-- A text of the characters of names is a name if it starts like one. -/
theorem isName_iff_of_parts {letters : List Char}
    (parts : ∀ char ∈ letters, isNamePart char = true) :
    isName letters = true ↔ ∃ first, letters.head? = some first ∧ isNameStart first = true := by
  cases letters with
  | nil => simp [isName]
  | cons first rest =>
      rw [isName_cons_iff, and_iff_left (List.forall_mem_cons.1 parts).2]
      simp

theorem isName_append {left right : List Char} (named : isName left = true)
    (parts : ∀ char ∈ right, isNamePart char = true) :
    isName (left ++ right) = true := by
  cases left with
  | nil => cases named
  | cons first rest =>
      rw [isName_cons_iff] at named
      rw [List.cons_append, isName_cons_iff]
      exact ⟨named.1, List.forall_mem_append.2 ⟨named.2, parts⟩⟩

/-- An ending that is a name may take the place of all letters from somewhere on. -/
theorem isName_take_append {letters ending : List Char} (named : isName letters = true)
    (endingNamed : isName ending = true)
    (count : Nat) :
    isName (letters.take count ++ ending) = true := by
  cases letters with
  | nil => cases named
  | cons first rest =>
      cases count with
      | zero => exact endingNamed
      | succ count =>
          rw [isName_cons_iff] at named
          rw [List.take_succ_cons, List.cons_append, isName_cons_iff]
          refine ⟨named.1, List.forall_mem_append.2 ⟨?_, isNamePart_of_isName endingNamed⟩⟩
          exact fun char member => named.2 char (List.mem_of_mem_take member)

/-! ## Case -/

theorem isNamePart_lowerFrom {letters : List Char}
    (parts : ∀ char ∈ letters, isNamePart char = true)
    (cased : Bool) :
    ∀ char ∈ lowerFrom cased letters, isNamePart char = true := by
  rw [lowerFrom_eq_map fun char member => isSign_of_isNamePart (parts char member),
    List.forall_mem_map]
  exact fun char member => isNamePart_toLower (parts char member)

theorem isNamePart_uppered {letters : List Char}
    (parts : ∀ char ∈ letters, isNamePart char = true) :
    ∀ char ∈ uppered letters, isNamePart char = true := by
  intro char member
  obtain ⟨source, inLetters, inUpper⟩ := List.mem_flatMap.1 member
  have part := parts source inLetters
  rw [upper_ascii (lt_of_isSign (isSign_of_isNamePart part)), List.mem_singleton] at inUpper
  exact inUpper ▸ isNamePart_toUpper part

theorem isName_uppered {letters : List Char} (named : isName letters = true) :
    isName (uppered letters) = true := by
  cases letters with
  | nil => cases named
  | cons first rest =>
      rw [isName_cons_iff] at named
      have part := isNamePart_of_isNameStart named.1
      rw [uppered_cons, upper_ascii (lt_of_isSign (isSign_of_isNamePart part)),
        List.singleton_append, isName_cons_iff]
      exact ⟨isNameStart_toUpper named.1, isNamePart_uppered named.2⟩

theorem isName_capitalized {letters : List Char} (named : isName letters = true) :
    isName (capitalized letters) = true := by
  cases letters with
  | nil => cases named
  | cons first rest =>
      rw [isName_cons_iff] at named
      have part := isNamePart_of_isNameStart named.1
      rw [capitalized, title_ascii (lt_of_isSign (isSign_of_isNamePart part)),
        List.singleton_append, isName_cons_iff]
      exact ⟨isNameStart_toUpper named.1, isNamePart_lowerFrom named.2 _⟩

end Sdl

open Sdl

namespace Plural

/-! ## Rules -/

/-- The rule gives nouns that are names a plural that is a name. -/
def KeepsNames (rule : Rule) : Prop :=
  ∀ noun plural, Sdl.isName noun.letters = true → rule noun = some plural →
    Sdl.isName plural = true

theorem keepsNames_rule {applies : Noun → Bool} {form : Noun → List Char}
    (forms : ∀ noun, Sdl.isName noun.letters = true → Sdl.isName (form noun) = true) :
    KeepsNames (rule applies form) := by
  intro noun plural named found
  obtain ⟨_, same⟩ := Option.ite_none_right_eq_some.1 found
  exact Option.some.inj same ▸ forms noun named

theorem keepsNames_firstOf {rules : List Rule} (all : ∀ rule ∈ rules, KeepsNames rule) :
    KeepsNames (firstOf rules) := by
  intro noun plural named found
  obtain ⟨rule, isRule, applied⟩ := List.exists_of_findSome?_eq_some found
  exact all rule isRule noun plural named applied

theorem keepsNames_letters (applies : Noun → Bool) :
    KeepsNames (rule applies Noun.letters) :=
  keepsNames_rule fun _ named => named

theorem keepsNames_add (applies : Noun → Bool) {ending : String} (endingNamed : IsName ending) :
    KeepsNames (rule applies (·.add ending)) :=
  keepsNames_rule fun _ named => isName_append named (isNamePart_of_isName endingNamed)

theorem keepsNames_replaceLast (applies : Noun → Bool) (count : Nat) {ending : String}
    (endingNamed : IsName ending) :
    KeepsNames (rule applies (·.replaceLast count ending)) :=
  keepsNames_rule fun _ named => isName_take_append named endingNamed _

theorem keepsNames_word (applies : Noun → Bool) {word : List Char}
    (wordNamed : Sdl.isName word = true) :
    KeepsNames (rule applies fun _ => word) :=
  keepsNames_rule fun _ _ => wordNamed

theorem keepsNames_inTable {table : List (String × String)} (word : Noun → List Char)
    (checked : ∀ entry ∈ table, IsName entry.2) :
    KeepsNames fun noun => inTable table (word noun) := by
  intro noun plural _ found
  obtain ⟨entry, isFound, rfl⟩ := Option.map_eq_some_iff.1 found
  exact checked entry (List.mem_of_find?_eq_some isFound)

theorem keepsNames_irregularForm : KeepsNames irregularForm := by
  apply keepsNames_firstOf
  simp only [List.forall_mem_cons]
  exact ⟨keepsNames_inTable _ (by decide), keepsNames_inTable _ (by decide),
    keepsNames_inTable _ (by decide), keepsNames_inTable _ (by decide), List.forall_mem_nil _⟩

/-- Each rule takes letters from the noun, or adds an ending, or gives a word of its own. -/
theorem keepsNames_of_mem {rule : Rule}
    (isRule : rule ∈ [unchanged, irregularForm, compounds, classical, sibilants, voiced, vowels]) :
    KeepsNames rule := by
  revert rule
  simp only [List.forall_mem_cons]
  refine ⟨keepsNames_letters _, keepsNames_irregularForm, ?_, ?_, ?_, ?_, ?_,
    List.forall_mem_nil _⟩
  all_goals
    apply keepsNames_firstOf
    simp (disch := decide) only [List.forall_mem_cons, keepsNames_letters, keepsNames_add,
      keepsNames_replaceLast, keepsNames_word, true_and]
    exact List.forall_mem_nil _

/-! ## Plurals -/

theorem isName_form {noun : Noun} (named : Sdl.isName noun.letters = true) :
    Sdl.isName (form noun) = true := by
  unfold form
  cases found : firstOf _ noun with
  | none =>
      have ending : IsName "s" := by decide
      exact isName_append named ending.isNamePart
  | some plural =>
      refine keepsNames_firstOf ?_ noun plural named found
      intro rule isRule
      exact keepsNames_of_mem isRule

theorem isName_letters {noun : List Char} (named : Sdl.isName noun = true) :
    Sdl.isName (letters noun) = true := by
  have plural : Sdl.isName (form (.ofLetters noun)) = true := isName_form named
  unfold letters restoreCase
  split
  · exact plural
  · split
    · exact isName_uppered plural
    · split
      · exact isName_capitalized plural
      · exact plural

/-- The plural of a name is a name. -/
theorem isName_of_ofWord? {word plural : String}
    (named : IsName word)
    (found : ofWord? word = some plural) :
    IsName plural := by
  obtain ⟨_, same⟩ := Option.ite_none_left_eq_some.1 found
  rw [← Option.some.inj same, IsName, String.toList_ofList]
  exact isName_letters named

end Plural

/-- A property that exposes an entity with a name has a name. -/
theorem Rendering.isName_of_entityProperty {config : Config} {entity : Item} {property : Property}
    (named : IsName entity.name)
    (exposed : entityProperty config entity = .ok property) :
    IsName property.name := by
  obtain ⟨plural, found, rfl⟩ := (entityProperty_eq_ok_iff_exists config entity property).1 exposed
  exact Plural.isName_of_ofWord? named found

end SchemaDecl
