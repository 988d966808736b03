import Mathlib.Data.List.Forall2
import SchemaDecl.Proofs.Sdl.Definitions

/-!
# Documents one after the other

Some texts that are documents by themselves, put one after the other with a line end after each, are
one document of all their definitions, as long as there are no operations and no fragments among
these.  What is read of the first text is carried on through its definitions one by one: each leaves
the tokens behind it, and the next text starts with a lexeme that none of the optional parts at its
end can start with.
-/

namespace SchemaDecl

/-- Whether a definition is an operation or a fragment. -/
def Definition.isExecutable : Definition → Bool
  | stray (.node "operation_definition") => true
  | stray (.node "fragment_definition") => true
  | _ => false

/-- The document has definitions and extensions of the type system only. -/
def Document.IsTypeSystem (document : Document) : Prop :=
  ∀ definition ∈ document.definitions, definition.isExecutable = false

instance (document : Document) : Decidable document.IsTypeSystem :=
  inferInstanceAs (Decidable (∀ definition ∈ document.definitions, definition.isExecutable = false))

namespace Sdl

open Reader Tokens

/-! ## Executable definitions -/

/-- Whatever is read is an operation or a fragment. -/
def ReadsExecutable (reader : Reader Definition) : Prop :=
  ∀ tokens value rest, reader tokens = .ok (value, rest) → value.isExecutable = true

theorem ReadsExecutable.bind {α : Type} (first : Reader α) {next : α → Reader Definition}
    (reads : ∀ value, ReadsExecutable (next value)) :
    ReadsExecutable (first >>= next) := by
  intro tokens value rest read
  obtain ⟨middle, between, _, readNext⟩ := (Reader.bind_eq_ok_iff _ _ _ _).1 read
  exact reads middle between value rest readNext

theorem readsExecutable_pure {value : Definition} (executable : value.isExecutable = true) :
    ReadsExecutable (pure value) := by
  intro tokens read rest result
  obtain ⟨rfl, _⟩ := (pure_eq_ok_iff _ _ _).1 result
  exact executable

theorem readsExecutable_operationDefinition : ReadsExecutable operationDefinition := by
  have selected : ReadsExecutable (do
      selectionSet
      return .stray (.node "operation_definition")) :=
    ReadsExecutable.bind _ fun _ => readsExecutable_pure rfl
  have named : ReadsExecutable (do
      let _ ← optionalBetween .parenLeft .parenRight variableDefinition
      let _ ← directivesIn false maxNesting
      selectionSet
      return .stray (.node "operation_definition")) :=
    ReadsExecutable.bind _ fun _ => ReadsExecutable.bind _ fun _ => selected
  refine ReadsExecutable.bind _ fun shorthand => ?_
  split
  · exact selected
  · refine ReadsExecutable.bind _ fun _ => ReadsExecutable.bind _ fun _ =>
      ReadsExecutable.bind _ fun found => ?_
    split
    · exact ReadsExecutable.bind _ fun _ => named
    · exact named

theorem readsExecutable_fragmentDefinition : ReadsExecutable fragmentDefinition :=
  ReadsExecutable.bind _ fun _ => ReadsExecutable.bind _ fun _ => ReadsExecutable.bind _ fun _ =>
    ReadsExecutable.bind _ fun _ => ReadsExecutable.bind _ fun _ => ReadsExecutable.bind _ fun _ =>
      ReadsExecutable.bind _ fun _ => readsExecutable_pure rfl

theorem readsExecutable_of_executableReader? {word : String} {reader : Reader Definition}
    (found : executableReader? word = some reader) :
    ReadsExecutable reader := by
  unfold executableReader? at found
  split at found
  · cases found
    exact readsExecutable_fragmentDefinition
  · split at found
    · cases found
      exact readsExecutable_operationDefinition
    · cases found

/-! ## One definition -/

/-- Whether a lexeme can be a description. -/
def Lexeme.describes : Lexeme → Bool
  | string _ => true
  | blockString _ => true
  | _ => false

theorem Lexeme.opens_of_describes {lexeme : Lexeme} (describes : lexeme.describes = true) :
    lexeme.opens = true := by
  cases lexeme with
  | string | blockString => rfl
  | mark | name | int | float => cases describes

/-- What comes second comes second with more behind. -/
theorem Tokens.Extends.tail {later : Continuation} {tokens extended ahead : Tokens}
    {lexeme : Lexeme}
    (more : tokens.Extends later extended)
    (passed : tokens.tail = .ok ahead)
    (second : ahead.head? = some lexeme) :
    ∃ further, extended.tail = .ok further ∧ further.head? = some lexeme := by
  cases here : tokens.head? with
  | none =>
      have nothing := (head?_eq_none_iff tokens).1 here
      rw [((checkHead_eq_ok_iff _ ahead).1 passed).1, Tokens.head?, nothing] at second
      cases second
  | some first =>
      obtain ⟨further, passes, moreAhead⟩ := more.passes ⟨here, passed⟩
      exact ⟨further, passes.tail, moreAhead.head?_eq_some second⟩

/-- The tokens from the word that introduces a definition, behind its description if it has one. -/
def Tokens.introduced (tokens : Tokens) : Except Fault Tokens :=
  if tokens.head?.any Lexeme.describes then tokens.tail else .ok tokens

/-- Where more follows, the same word introduces the definition. -/
theorem Tokens.Extends.introduced {later : Continuation} {tokens extended ahead : Tokens}
    {lexeme : Lexeme}
    (more : tokens.Extends later extended)
    (same : extended.head? = tokens.head?)
    (found : tokens.introduced = .ok ahead)
    (here : ahead.head? = some lexeme) :
    ∃ further, extended.introduced = .ok further ∧ further.head? = some lexeme := by
  unfold Tokens.introduced at found ⊢
  rw [same]
  split
  · rw [if_pos ‹_›] at found
    exact more.tail found here
  · rw [if_neg ‹_›] at found
    cases found
    exact ⟨extended, rfl, more.head?_eq_some here⟩

/-- What a definition starts with, its description or the word that introduces it, opens one. -/
theorem Tokens.opens_of_introduced {tokens ahead : Tokens} {lexeme : Lexeme} {word : String}
    (found : tokens.introduced = .ok ahead)
    (introducing : ahead.head? = some (.name word))
    (opening : openingWords.contains word = true)
    (first : tokens.head? = some lexeme) :
    lexeme.opens = true := by
  rw [Tokens.introduced, first, Option.any_some] at found
  split at found
  · exact Lexeme.opens_of_describes ‹_›
  · cases found
    rw [first] at introducing
    cases introducing
    exact opening

theorem peekDescription_eq (tokens : Tokens) :
    peekDescription tokens = .ok (tokens.head?.any Lexeme.describes, tokens) := by
  rw [peekDescription, head_bind]
  cases tokens.head? with
  | none => rfl
  | some lexeme => cases lexeme <;> rfl

/-- A definition is read at its description by the word that introduces it. -/
theorem definition_eq_ok_iff (tokens rest : Tokens) (value : Definition) :
    definition tokens = .ok (value, rest) ↔
      ∃ ahead, tokens.introduced = .ok ahead ∧
        definitionBy (tokens.head?.any Lexeme.describes) ahead tokens = .ok (value, rest) := by
  rw [definition, bind_of_ok (peekDescription_eq tokens), introduced]
  split
  · simp only [Reader.bind_eq_ok_iff, lookahead_eq_ok_iff]
    constructor
    · rintro ⟨ahead, _, ⟨found, rfl⟩, read⟩
      exact ⟨ahead, found, read⟩
    · rintro ⟨ahead, found, read⟩
      exact ⟨ahead, tokens, ⟨found, rfl⟩, read⟩
  · constructor
    · intro read
      exact ⟨tokens, rfl, read⟩
    · rintro ⟨_, ⟨⟩, read⟩
      exact read

theorem unexpectedAhead_ne_ok {α : Type} (ahead tokens rest : Tokens) (value : α) :
    unexpectedAhead ahead tokens ≠ .ok (value, rest) :=
  nofun

/-- An extension is read by the word behind the one that all extensions start with. -/
theorem extension_eq_ok_iff (tokens rest : Tokens) (value : Definition) :
    extension tokens = .ok (value, rest) ↔
      ∃ ahead word reader, tokens.tail = .ok ahead ∧ ahead.head? = some (.name word) ∧
        typeSystemReader? .extension word = some reader ∧ reader tokens = .ok (value, rest) := by
  simp only [extension, Reader.bind_eq_ok_iff, lookahead_eq_ok_iff]
  constructor
  · rintro ⟨ahead, _, ⟨passed, rfl⟩, read⟩
    cases here : ahead.head? with
    | none =>
        rw [here] at read
        exact absurd read (unexpectedAhead_ne_ok _ _ _ _)
    | some lexeme =>
        rw [here] at read
        cases lexeme with
        | name word =>
            cases found : typeSystemReader? .extension word with
            | none =>
                simp only [found] at read
                exact absurd read (unexpectedAhead_ne_ok _ _ _ _)
            | some reader =>
                simp only [found] at read
                exact ⟨ahead, word, reader, passed, here, found, read⟩
        | mark | int | float | string | blockString =>
            exact absurd read (unexpectedAhead_ne_ok _ _ _ _)
  · rintro ⟨ahead, word, reader, passed, here, found, read⟩
    refine ⟨ahead, tokens, ⟨passed, rfl⟩, ?_⟩
    rw [here]
    change (typeSystemReader? .extension word).getD (unexpectedAhead ahead) tokens = _
    rw [found]
    exact read

theorem takes_extension (later : Continuation) : Takes later extension where
  carries := by
    intro tokens extended value rest more read
    obtain ⟨ahead, word, reader, passed, here, found, readWord⟩ :=
      (extension_eq_ok_iff tokens rest value).1 read
    obtain ⟨aheadFurther, passedFurther, hereFurther⟩ := more.tail passed here
    obtain ⟨further, through, moreRest, left⟩ :=
      (takes_of_typeSystemReader? found).1.carries tokens extended value rest more readWord
    exact ⟨further, (extension_eq_ok_iff _ _ _).2
      ⟨aheadFurther, word, reader, passedFurther, hereFurther, found, through⟩, moreRest, left⟩
  shrinks := by
    intro tokens extended value rest more read
    obtain ⟨ahead, word, reader, passed, here, found, readWord⟩ :=
      (extension_eq_ok_iff tokens rest value).1 read
    exact (takes_of_typeSystemReader? found).1.shrinks tokens extended value rest more readWord

theorem ReadsExecutable.ne_ok {reader : Reader Definition} {tokens rest : Tokens}
    {value : Definition}
    (reads : ReadsExecutable reader)
    (typeSystem : value.isExecutable = false) :
    reader tokens ≠ .ok (value, rest) := by
  intro read
  have executable := reads tokens value rest read
  rw [typeSystem] at executable
  cases executable

/-- What is no operation and no fragment is introduced by a word. -/
theorem exists_word_of_definitionBy {described : Bool} {ahead tokens rest : Tokens}
    {value : Definition}
    (read : definitionBy described ahead tokens = .ok (value, rest))
    (typeSystem : value.isExecutable = false) :
    ∃ word, ahead.head? = some (.name word) := by
  unfold definitionBy at read
  cases here : ahead.head? with
  | none =>
      rw [here] at read
      exact absurd read (unexpectedAhead_ne_ok _ _ _ _)
  | some lexeme =>
      rw [here] at read
      cases lexeme with
      | name word => exact ⟨word, rfl⟩
      | mark mark =>
          cases mark with
          | braceLeft =>
              cases described with
              | true => cases read
              | false => exact absurd read (readsExecutable_operationDefinition.ne_ok typeSystem)
          | _ => exact absurd read (unexpectedAhead_ne_ok _ _ _ _)
      | int | float | string | blockString =>
          exact absurd read (unexpectedAhead_ne_ok _ _ _ _)

/-- The word that introduces it determines how it is read. -/
theorem exists_reader_of_definitionBy (later : Continuation) {described : Bool}
    {ahead tokens rest : Tokens} {value : Definition} {word : String}
    (introducing : ahead.head? = some (.name word))
    (read : definitionBy described ahead tokens = .ok (value, rest))
    (typeSystem : value.isExecutable = false) :
    openingWords.contains word = true ∧
      ∃ reader, Takes later reader ∧
        ∀ further : Tokens, further.head? = some (.name word) →
          definitionBy described further = reader := by
  cases found : typeSystemReader? .definition word with
  | some reader =>
      have ⟨takes, opening⟩ : Takes later reader ∧ _ := takes_of_typeSystemReader? found
      refine ⟨opening, reader, takes, fun further same => ?_⟩
      simp only [definitionBy, same, found, Option.some_or]
  | none =>
      cases executable : executableReader? word with
      | some reader =>
          simp only [definitionBy, introducing, found, executable, Option.none_or] at read
          have reads := readsExecutable_of_executableReader? executable
          exact absurd read (reads.ne_ok typeSystem)
      | none =>
          simp only [definitionBy, introducing, found, executable, Option.none_or] at read
          split at read
          · cases read
          · rename_i plain
            split at read
            · rename_i extending
              subst extending
              refine ⟨rfl, extension, takes_extension later, fun further same => ?_⟩
              simp only [definitionBy, same, found, executable, Option.none_or, if_neg plain,
                if_true]
            · exact absurd read (unexpectedAhead_ne_ok _ _ _ _)

/-- A definition of the type system is read whatever follows, and it starts with a lexeme that opens
one. -/
theorem definition_extends {later : Continuation} {tokens extended rest : Tokens}
    {value : Definition}
    (more : tokens.Extends later extended)
    (read : definition tokens = .ok (value, rest))
    (typeSystem : value.isExecutable = false) :
    (∃ lexeme, tokens.head? = some lexeme ∧ lexeme.opens = true) ∧
      rest.items.length < tokens.items.length ∧ tokens.LeftOf rest ∧
      ∃ further, definition extended = .ok (value, further) ∧ rest.Extends later further := by
  obtain ⟨ahead, found, readAhead⟩ := (definition_eq_ok_iff tokens rest value).1 read
  obtain ⟨word, introducing⟩ := exists_word_of_definitionBy readAhead typeSystem
  obtain ⟨opening, reader, takes, same⟩ :=
    exists_reader_of_definitionBy later introducing readAhead typeSystem
  rw [same ahead introducing] at readAhead
  obtain ⟨further, through, moreRest, left⟩ :=
    takes.carries tokens extended value rest more readAhead
  have fewer := takes.shrinks tokens extended value rest more readAhead
  cases first : tokens.head? with
  | none =>
      rw [(head?_eq_none_iff tokens).1 first] at fewer
      cases fewer
  | some lexeme =>
      have sameHead : extended.head? = tokens.head? := by rw [more.head?_eq_some first, first]
      obtain ⟨aheadFurther, foundFurther, introducingFurther⟩ :=
        more.introduced sameHead found introducing
      refine ⟨⟨lexeme, rfl, opens_of_introduced found introducing opening first⟩, fewer, left,
        further, ?_, moreRest⟩
      refine (definition_eq_ok_iff _ _ _).2 ⟨aheadFurther, foundFurther, ?_⟩
      rw [sameHead, same aheadFurther introducingFurther]
      exact through

/-! ## All definitions -/

/-- Read any number of definitions, up to the end. -/
def definitionsToEnd (bound : Nat) : Reader (List Definition) := do
  if ← atEnd then return [] else elementsUntil atEnd definition bound

theorem definitionsToEnd_of_nil {tokens : Tokens} (nothing : tokens.items = []) (bound : Nat) :
    definitionsToEnd bound tokens = .ok ([], tokens) := by
  have ended : atEnd tokens = .ok (true, tokens) := by
    rw [atEnd, head_bind, (head?_eq_none_iff tokens).2 nothing]
    rfl
  rw [definitionsToEnd, bind_of_ok ended]
  rfl

theorem definitionsToEnd_of_ne_nil {tokens : Tokens} (nonempty : tokens.items ≠ []) (bound : Nat) :
    definitionsToEnd bound tokens = elementsUntil atEnd definition bound tokens := by
  rw [Ne, ← head?_eq_none_iff] at nonempty
  obtain ⟨lexeme, here⟩ := Option.ne_none_iff_exists'.1 nonempty
  have going : atEnd tokens = .ok (false, tokens) := by
    rw [atEnd, head_bind, here]
    rfl
  rw [definitionsToEnd, bind_of_ok going]
  rfl

/-- One definition and all others. -/
theorem elementsUntil_atEnd_succ (bound : Nat) :
    elementsUntil atEnd definition (bound + 1) =
      definition >>= fun first =>
        definitionsToEnd bound >>= fun others => pure (first :: others) := by
  rw [elementsUntil_succ]
  refine congrArg (definition >>= ·) (funext fun first => ?_)
  rw [definitionsToEnd, bind_assoc]
  refine congrArg (atEnd >>= ·) (funext fun ended => ?_)
  cases ended <;> rfl

/-- What is read up to the end: nothing if nothing is left, and else one definition and all others.
-/
theorem definitionsToEnd_cases {bound : Nat} {tokens rest : Tokens}
    {definitions : List Definition}
    (read : definitionsToEnd bound tokens = .ok (definitions, rest)) :
    tokens.items = [] ∧ definitions = [] ∨
      tokens.items ≠ [] ∧ ∃ fewer first remaining between, bound = fewer + 1 ∧
        definitions = first :: remaining ∧ definition tokens = .ok (first, between) ∧
        definitionsToEnd fewer between = .ok (remaining, rest) := by
  by_cases nothing : tokens.items = []
  · rw [definitionsToEnd_of_nil nothing] at read
    cases read
    exact Or.inl ⟨nothing, rfl⟩
  · rw [definitionsToEnd_of_ne_nil nothing] at read
    cases bound with
    | zero => exact absurd read (unexpected_ne_ok _ _)
    | succ fewer =>
        rw [elementsUntil_atEnd_succ, Reader.bind_eq_ok_iff] at read
        obtain ⟨first, between, readFirst, readRest⟩ := read
        obtain ⟨remaining, _, readRemaining, done⟩ := (Reader.bind_eq_ok_iff _ _ _ _).1 readRest
        obtain ⟨rfl, rfl⟩ := (pure_eq_ok_iff _ _ _).1 done
        exact Or.inr ⟨nothing, fewer, first, remaining, between, rfl, rfl, readFirst,
          readRemaining⟩

/-- One definition that is read and all others behind it are read together. -/
theorem definitionsToEnd_cons {fewer : Nat} {tokens between rest : Tokens} {first : Definition}
    {remaining : List Definition}
    (nonempty : tokens.items ≠ [])
    (readFirst : definition tokens = .ok (first, between))
    (readRemaining : definitionsToEnd fewer between = .ok (remaining, rest)) :
    definitionsToEnd (fewer + 1) tokens = .ok (first :: remaining, rest) := by
  rw [definitionsToEnd_of_ne_nil nonempty, elementsUntil_atEnd_succ, Reader.bind_eq_ok_iff]
  refine ⟨first, between, readFirst, (Reader.bind_eq_ok_iff _ _ _ _).2 ?_⟩
  exact ⟨remaining, rest, readRemaining, rfl⟩

theorem definitionsToEnd_of_le {bound more : Nat} {tokens rest : Tokens}
    {definitions : List Definition}
    (enough : bound ≤ more)
    (read : definitionsToEnd bound tokens = .ok (definitions, rest)) :
    definitionsToEnd more tokens = .ok (definitions, rest) := by
  refine bind_eq_ok_mono (fun ended between => ?_) read
  split
  · exact id
  · exact elementsUntil_of_le enough

namespace Tokens

/-- The tokens are those of some definitions of the type system, at whatever offsets. -/
structure Holds (tokens : Tokens) (definitions : List Definition) : Prop where
  typeSystem : ∀ definition ∈ definitions, definition.isExecutable = false
  opened : ∀ lexeme ∈ tokens.lexemes.head?, lexeme.opens = true
  clean : tokens.ending.fault = none
  read : ∀ other : Tokens, other.lexemes = tokens.lexemes → other.ending.fault = none →
    ∃ last, definitionsToEnd other.items.length other = .ok (definitions, last)

namespace Holds

/-- The lexemes of these definitions can follow others. -/
def continuation {behind : Tokens} {others : List Definition} (holds : behind.Holds others) :
    Continuation :=
  ⟨behind.lexemes, holds.opened⟩

end Holds

theorem holds_nil {tokens : Tokens} (nothing : tokens.items = [])
    (clean : tokens.ending.fault = none) :
    tokens.Holds [] where
  typeSystem _ listed := absurd listed List.not_mem_nil
  opened lexeme first := by
    rw [lexemes, nothing] at first
    exact absurd first (Option.not_mem_none lexeme)
  clean := clean
  read := by
    intro other same _
    rw [lexemes, lexemes, nothing, List.map_nil, List.map_eq_nil_iff] at same
    exact ⟨other, definitionsToEnd_of_nil same _⟩

end Tokens

section

variable {behind tokens extended rest : Tokens} {others definitions : List Definition}

/-- Where nothing is left, what follows is read. -/
theorem definitionsToEnd_extends_of_nil {bound : Nat}
    (holds : behind.Holds others)
    (more : tokens.Extends holds.continuation extended)
    (read : definitionsToEnd bound tokens = .ok (definitions, rest))
    (nothing : tokens.items = []) :
    (∀ lexeme ∈ tokens.head?, lexeme.opens = true) ∧ tokens.ending.fault = none ∧
      ∃ last, definitionsToEnd extended.items.length extended =
        .ok (definitions ++ others, last) := by
  rw [definitionsToEnd_of_nil nothing] at read
  cases read
  have same : extended.lexemes = behind.lexemes := by
    rw [more.lexemes, lexemes, nothing]
    rfl
  refine ⟨fun lexeme first => ?_, more.ended nothing, holds.read extended same more.clean⟩
  rw [(head?_eq_none_iff tokens).2 nothing] at first
  exact absurd first (Option.not_mem_none lexeme)

/-- Definitions that are read up to the end are read with more behind, and then what follows. -/
theorem definitionsToEnd_extends {bound : Nat}
    (holds : behind.Holds others)
    (more : tokens.Extends holds.continuation extended)
    (read : definitionsToEnd bound tokens = .ok (definitions, rest))
    (typeSystem : ∀ definition ∈ definitions, definition.isExecutable = false) :
    (∀ lexeme ∈ tokens.head?, lexeme.opens = true) ∧ tokens.ending.fault = none ∧
      ∃ last, definitionsToEnd extended.items.length extended =
        .ok (definitions ++ others, last) := by
  -- Each round leaves tokens to which the same lexemes are added, and the last one leaves none.
  induction bound using Nat.strongRecOn generalizing tokens extended definitions with
  | ind bound inductionHypothesis =>
      rcases definitionsToEnd_cases read with ⟨nothing, _⟩ |
        ⟨nonempty, fewer, first, remaining, between, rfl, rfl, readFirst, readRemaining⟩
      · exact definitionsToEnd_extends_of_nil holds more read nothing
      · rw [List.forall_mem_cons] at typeSystem
        obtain ⟨⟨lexeme, here, opens⟩, shorter, left, further, throughFirst, moreBetween⟩ :=
          definition_extends more readFirst typeSystem.1
        obtain ⟨_, clean, last, throughRemaining⟩ :=
          inductionHypothesis fewer (Nat.lt_succ_self fewer) moreBetween readRemaining typeSystem.2
        refine ⟨?_, left.ending ▸ clean, last, ?_⟩
        · rw [here]
          rintro _ ⟨⟩
          exact opens
        · have enough : further.items.length + 1 ≤ extended.items.length := by
            rw [more.length_eq, moreBetween.length_eq]
            omega
          exact definitionsToEnd_of_le enough
            (definitionsToEnd_cons (more.nonempty nonempty) throughFirst throughRemaining)

end

namespace Tokens

variable {tokens behind whole rest : Tokens} {definitions others : List Definition}

/-- Tokens whose definitions are read hold these, unless there are no tokens but a fault. -/
theorem holds_of_read {bound : Nat}
    (ended : tokens.items = [] → tokens.ending.fault = none)
    (read : definitionsToEnd bound tokens = .ok (definitions, rest))
    (typeSystem : ∀ definition ∈ definitions, definition.isExecutable = false) :
    tokens.Holds definitions := by
  have nothing : Holds ⟨[], ⟨none, 0⟩⟩ [] := holds_nil rfl rfl
  have reads (other : Tokens) (same : other.lexemes = tokens.lexemes)
      (clean : other.ending.fault = none) :=
    definitionsToEnd_extends nothing
      ⟨same.trans (List.append_nil _).symm, clean, ended⟩ read typeSystem
  -- Whether the tokens end in a fault is not known yet, so they are read without one first.
  have unfaulted := reads { tokens with ending := ⟨none, 0⟩ } rfl rfl
  refine ⟨typeSystem, ?_, unfaulted.2.1, fun other same clean => ?_⟩
  · rw [← head?_eq_head?_lexemes]
    exact unfaulted.1
  · simpa using (reads other same clean).2.2

theorem Joins.nonempty (joins : Joins tokens behind whole) (nonempty : tokens.items ≠ []) :
    whole.items ≠ [] := by
  intro nothing
  have same := joins.1
  rw [lexemes, nothing, List.map_nil, eq_comm, List.append_eq_nil_iff] at same
  exact nonempty (List.map_eq_nil_iff.1 same.1)

/-- Definitions with others behind them are the definitions of both. -/
theorem Holds.append
    (holds : tokens.Holds definitions)
    (holdsBehind : behind.Holds others)
    (joins : Joins tokens behind whole) :
    whole.Holds (definitions ++ others) where
  typeSystem := by
    intro definition listed
    rcases List.mem_append.1 listed with inFront | inRest
    · exact holds.typeSystem definition inFront
    · exact holdsBehind.typeSystem definition inRest
  opened := by
    rw [joins.1, List.head?_append]
    cases first : tokens.lexemes.head? with
    | none => exact holdsBehind.opened
    | some lexeme => simpa [first] using holds.opened
  clean := joins.2.trans holdsBehind.clean
  read := by
    intro other same clean
    obtain ⟨last, readTokens⟩ := holds.read tokens rfl holds.clean
    have more : tokens.Extends holdsBehind.continuation other :=
      ⟨same.trans joins.1, clean, fun _ => holds.clean⟩
    exact (definitionsToEnd_extends holdsBehind more readTokens holds.typeSystem).2.2

end Tokens

/-! ## Documents -/

theorem definition_ne_ok_of_nil {tokens rest : Tokens} {value : Definition}
    (nothing : tokens.items = []) :
    definition tokens ≠ .ok (value, rest) := by
  rw [Ne, definition_eq_ok_iff, introduced, (head?_eq_none_iff tokens).2 nothing]
  rintro ⟨_, ⟨⟩, read⟩
  rw [definitionBy, (head?_eq_none_iff tokens).2 nothing] at read
  exact unexpectedAhead_ne_ok _ _ _ _ read

/-- A document is one or more definitions up to the end. -/
theorem document_eq_ok_iff (tokens rest : Tokens) (found : Document) :
    document tokens = .ok (found, rest) ↔
      tokens.items ≠ [] ∧
        definitionsToEnd (tokens.items.length + 1) tokens = .ok (found.definitions, rest) := by
  have counted : rounds tokens = .ok (tokens.items.length + 1, tokens) := rfl
  rw [document, bind_of_ok counted, Reader.bind_eq_ok_iff]
  by_cases nothing : tokens.items = []
  · simp only [nothing, ne_eq, not_true_eq_false, false_and, iff_false]
    rintro ⟨definitions, last, read, _⟩
    obtain ⟨first, between, readFirst, _⟩ := (Reader.bind_eq_ok_iff _ _ _ _).1 read
    exact definition_ne_ok_of_nil nothing readFirst
  · rw [definitionsToEnd_of_ne_nil nothing]
    constructor
    · rintro ⟨definitions, last, read, done⟩
      obtain ⟨rfl, rfl⟩ := (pure_eq_ok_iff _ _ _).1 done
      exact ⟨nothing, read⟩
    · rintro ⟨_, read⟩
      exact ⟨found.definitions, rest, read, rfl⟩

end Sdl

namespace Document

open Sdl

/-- The tokens of a text hold the definitions of its document. -/
theorem holds_of_ofText {text : String} {document : Document}
    (read : ofText text = .ok document)
    (typeSystem : document.IsTypeSystem) :
    (Tokens.ofText text).Holds document.definitions := by
  obtain ⟨ended, rest, readTokens⟩ := (Reader.run_eq_ok_iff _ _).1 read
  exact Tokens.holds_of_read ended ((document_eq_ok_iff _ _ _).1 readTokens).2 typeSystem

theorem items_ne_nil_of_ofText {text : String} {document : Document}
    (read : ofText text = .ok document) :
    (Tokens.ofText text).items ≠ [] := by
  obtain ⟨_, rest, readTokens⟩ := (Reader.run_eq_ok_iff _ _).1 read
  exact ((document_eq_ok_iff _ _ _).1 readTokens).1

end Document

end SchemaDecl
