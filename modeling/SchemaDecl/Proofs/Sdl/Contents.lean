import SchemaDecl.Proofs.Collect
import SchemaDecl.Proofs.Naming
import SchemaDecl.Proofs.Sdl.Joined

/-!
# What a schema text contains

Everything that a schema text names is called by a name, and the types of its fields have no more
lists inside each other than there is room for.  `Finds` says what holds of every value that a reader
gives from tokens whose names are names; it is shown along the parts of the reader, and every part
leaves tokens of that kind to the next one.
-/

namespace SchemaDecl

/-- The shapes of a reference have no more than some number of lists inside each other. -/
def TypeRef.Within (limit : Nat) (reference : TypeRef) : Prop :=
  ∀ notNull shape, reference.shapeUnder notNull = .ok shape → shape.depth ≤ limit

/-- The types of the fields of a definition have no more than some number of lists inside each
other. -/
def Definition.Within (limit : Nat) : Definition → Prop
  | object _ type => ∀ field ∈ type.fields, field.type.Within limit
  | interface _ type => ∀ field ∈ type.fields, field.type.Within limit
  | _ => True

namespace TypeRef.Within

variable {limit : Nat} {reference : TypeRef}

theorem named (name : String) : (TypeRef.named name).Within limit := by
  rintro notNull shape ⟨⟩
  exact Nat.zero_le _

theorem list (within : reference.Within limit) : reference.list.Within (limit + 1) := by
  intro notNull shape given
  rw [TypeRef.shapeUnder] at given
  cases inner : reference.shapeUnder false with
  | error part =>
      rw [inner] at given
      cases given
  | ok element =>
      rw [inner] at given
      cases given
      exact Nat.succ_le_succ (within false element inner)

theorem nonNull (within : reference.Within limit) : reference.nonNull.Within limit :=
  fun _ shape given => within true shape given

theorem mono {larger : Nat} (within : reference.Within limit) (fewer : limit ≤ larger) :
    reference.Within larger :=
  fun notNull shape given => Nat.le_trans (within notNull shape given) fewer

end TypeRef.Within

theorem Definition.Within.mono {limit larger : Nat} {definition : Definition}
    (within : definition.Within limit) (fewer : limit ≤ larger) :
    definition.Within larger := by
  cases definition with
  | object _ _ => exact fun field member => (within field member).mono fewer
  | interface _ _ => exact fun field member => (within field member).mono fewer
  | _ => trivial

namespace Sdl

open Reader Tokens

/-! ## Names among tokens -/

/-- The names among the tokens are names of the language, and there is no fault behind them. -/
structure Tokens.Proper (tokens : Tokens) : Prop where
  named : ∀ token ∈ tokens.items, ∀ word, token.lexeme = .name word → IsName word
  clean : tokens.ending.fault = none

theorem Tokens.Proper.leftOf {tokens rest : Tokens} (proper : tokens.Proper)
    (left : tokens.LeftOf rest) :
    rest.Proper where
  named token member := proper.named token (left.items.subset member)
  clean := left.ending ▸ proper.clean

/-- Tokens that end well have nothing more behind them. -/
theorem Tokens.Proper.extends_nothing {tokens : Tokens} (proper : tokens.Proper) :
    tokens.Extends .nothing tokens where
  lexemes := (List.append_nil _).symm
  clean := proper.clean
  ended _ := proper.clean

theorem readNumber_ne_name {text : List Char} {word : String} {length : Nat} :
    readNumber text ≠ .ok (.name word, length) := by
  rw [Ne, readNumber_eq_ok_iff]
  rintro ⟨_, _, _, _, _, _, _, _, isNumber⟩
  split at isNumber <;> cases isNumber

theorem readString_ne_name {rest : List Char} {word : String} {length : Nat} :
    readString rest ≠ .ok (.name word, length) := by
  unfold readString
  split
  · cases blockFrom 3 0 [] _ <;> nofun
  · cases stringFrom 1 0 _ <;> nofun

theorem readPoint_ne_name {rest : List Char} {word : String} {length : Nat} :
    readPoint rest ≠ .ok (.name word, length) := by
  unfold readPoint
  split
  · nofun
  · nofun
  · split <;> nofun

/-- A lexeme that is a name starts and goes on as names do. -/
theorem isName_of_readLexeme {char : Char} {rest : List Char} {word : String} {length : Nat}
    (read : readLexeme char rest = .ok (.name word, length)) :
    IsName word := by
  unfold readLexeme at read
  split at read
  · rename_i start
    cases read
    rw [IsName, String.toList_ofList, isName, start, Bool.true_and, List.all_eq_true]
    exact fun _ member => List.mem_takeWhile_imp member
  split at read
  · exact absurd read readNumber_ne_name
  split at read
  · exact absurd read readString_ne_name
  split at read
  · exact absurd read readPoint_ne_name
  split at read
  · cases read
  split at read
  · cases read
  · cases read

theorem Tokens.named_readFrom (offset skip : Nat) (text : List Char) :
    ∀ token ∈ (readFrom offset skip text).items, ∀ word, token.lexeme = .name word →
      IsName word := by
  induction text generalizing offset skip with
  | nil => exact List.forall_mem_nil _
  | cons char rest inductionHypothesis =>
      cases skip with
      | succ skip => exact inductionHypothesis _ _
      | zero =>
          rw [readFrom]
          split
          · exact inductionHypothesis _ _
          split
          · exact inductionHypothesis _ _
          split
          · exact List.forall_mem_nil _
          · rename_i lexeme length read
            refine List.forall_mem_cons.2 ⟨fun word same => ?_, inductionHypothesis _ _⟩
            cases same
            exact isName_of_readLexeme read

/-! ## What readers find -/

/-- Something holds of every value that a reader gives from proper tokens. -/
def Finds {α : Type} (reader : Reader α) (holds : α → Prop) : Prop :=
  ∀ tokens value rest, tokens.Proper → reader tokens = .ok (value, rest) → holds value

/-- A reader that carries leaves proper tokens to others. -/
theorem Reader.Carries.proper {α : Type} {reader : Reader α} {tokens rest : Tokens} {value : α}
    (carries : Carries .nothing reader)
    (proper : tokens.Proper)
    (read : reader tokens = .ok (value, rest)) :
    rest.Proper := by
  obtain ⟨_, _, _, left⟩ := carries tokens tokens value rest proper.extends_nothing read
  exact proper.leftOf left

namespace Finds

variable {α β : Type} {holds : α → Prop} {holdsLater : β → Prop}

theorem pure {value : α} (held : holds value) : Finds (Pure.pure value) holds := by
  rintro tokens given rest _ ⟨⟩
  exact held

theorem bind {first : Reader α} {next : α → Reader β} (finds : Finds first holds)
    (carries : Carries .nothing first)
    (later : ∀ value, holds value → Finds (next value) holdsLater) :
    Finds (first >>= next) holdsLater := by
  intro tokens value rest proper read
  obtain ⟨middle, between, readFirst, readNext⟩ := (bind_eq_ok_iff _ _ _ _).1 read
  exact later middle (finds _ _ _ proper readFirst) _ _ _ (carries.proper proper readFirst) readNext

/-- Nothing has to be known of a value that does not matter. -/
theorem after {first : Reader α} {next : α → Reader β}
    (carries : Carries .nothing first)
    (later : ∀ value, Finds (next value) holdsLater) :
    Finds (first >>= next) holdsLater := by
  have anything : Finds first fun _ => True := fun _ _ _ _ _ => trivial
  exact anything.bind carries fun value _ => later value

theorem map {reader : Reader α} {convert : α → β} (finds : Finds reader holds)
    (later : ∀ value, holds value → holdsLater (convert value)) :
    Finds (convert <$> reader) holdsLater := by
  intro tokens value rest proper read
  rw [map_eq_pure_bind] at read
  obtain ⟨middle, between, readFirst, done⟩ := (bind_eq_ok_iff _ _ _ _).1 read
  obtain ⟨rfl, -⟩ := (pure_eq_ok_iff _ _ _).1 done
  exact later middle (finds _ _ _ proper readFirst)

theorem ite {condition : Prop} [Decidable condition] {first second : Reader α}
    (findsFirst : Finds first holds)
    (findsSecond : Finds second holds) :
    Finds (if condition then first else second) holds := by
  split
  · exact findsFirst
  · exact findsSecond

theorem fail (cause : Cause) : Finds (Reader.fail cause : Reader α) holds :=
  nofun

theorem unexpected : Finds (Reader.unexpected : Reader α) holds :=
  fun _ value rest _ read => absurd read (unexpected_ne_ok value rest)

section

variable {ends starts : Reader Bool} {element : Reader α}

theorem elementsUntil (finds : Finds element holds)
    (carriesEnds : Carries .nothing ends)
    (carries : Carries .nothing element)
    (bound : Nat) :
    Finds (Reader.elementsUntil ends element bound) fun values =>
      ∀ value ∈ values, holds value := by
  induction bound with
  | zero => exact unexpected
  | succ bound inductionHypothesis =>
      refine finds.bind carries fun first held => after carriesEnds fun ended => ?_
      refine ite (pure (List.forall_mem_singleton.2 held)) ?_
      exact inductionHypothesis.bind (carries_elementsUntil carriesEnds carries bound)
        fun rest heldLater => pure (List.forall_mem_cons.2 ⟨held, heldLater⟩)

theorem elementsWhile (finds : Finds element holds)
    (carriesStarts : Carries .nothing starts)
    (carries : Carries .nothing element)
    (bound : Nat) :
    Finds (Reader.elementsWhile starts element bound) fun values =>
      ∀ value ∈ values, holds value := by
  induction bound with
  | zero => exact unexpected
  | succ bound inductionHypothesis =>
      refine after carriesStarts fun started => ite ?_ (pure (List.forall_mem_nil _))
      refine finds.bind carries fun first held => ?_
      exact inductionHypothesis.bind (carries_elementsWhile carriesStarts carries bound)
        fun rest heldLater => pure (List.forall_mem_cons.2 ⟨held, heldLater⟩)

/-- The tokens stay when the current one is looked at. -/
theorem afterHead {next : Option Lexeme → Reader α}
    (later : ∀ found, Finds (next found) holds) :
    Finds (head >>= next) holds :=
  fun tokens value rest proper read => later tokens.head? tokens value rest proper read

/-- The number of rounds does not matter. -/
theorem afterRounds {next : Nat → Reader α} (later : ∀ bound, Finds (next bound) holds) :
    Finds (rounds >>= next) holds :=
  fun tokens value rest proper read => later _ tokens value rest proper read

theorem optionalBetween (finds : Finds element holds)
    (carries : Carries .nothing element) (opening closing : Mark) :
    Finds (Reader.optionalBetween opening closing element) fun values =>
      ∀ value ∈ values, holds value := by
  refine after (carries_skipMark opening) fun found => ite ?_ (pure (List.forall_mem_nil _))
  exact afterRounds fun bound => finds.elementsUntil (carries_skipMark closing) carries bound

theorem separatedBy (finds : Finds element holds)
    (carries : Carries .nothing element) (separator : Mark) :
    Finds (Reader.separatedBy separator element) fun values => ∀ value ∈ values, holds value := by
  refine after (carries_skipMark separator) fun _ => afterRounds fun bound => ?_
  exact finds.elementsUntil ((carries_skipMark separator).map not) carries bound

theorem whileMark (finds : Finds element holds)
    (carries : Carries .nothing element) (mark : Mark) :
    Finds (Reader.whileMark mark element) fun values => ∀ value ∈ values, holds value :=
  afterRounds fun bound => finds.elementsWhile (carries_peekMark mark) carries bound

end

end Finds

/-! ## Names and types -/

theorem finds_name : Finds name IsName := by
  intro tokens text rest proper read
  obtain ⟨token, first, lexeme⟩ := Option.map_eq_some_iff.1 ((name_eq_ok_iff _ _).1 read).head
  exact proper.named token (List.mem_of_mem_head? first) text lexeme

/-- The names in a reference are names, and the lists in it are within a limit. -/
structure LegalType (limit : Nat) (reference : TypeRef) : Prop where
  named : ∀ name ∈ reference.names, IsName name
  within : reference.Within limit

theorem finds_namedType (limit : Nat) : Finds namedType (LegalType limit) :=
  finds_name.map fun name isName =>
    ⟨List.forall_mem_singleton.2 isName, .named name⟩

/-- A reference has one list more than the references that are read inside of it, if there are
any. -/
theorem finds_typeRefWith {element : Option (Reader TypeRef)} {limit : Nat}
    (carries : ∀ reader ∈ element, Carries .nothing reader)
    (finds : ∀ reader ∈ element, Finds reader fun inner => LegalType limit inner.list) :
    Finds (typeRefWith element) (LegalType limit) := by
  have closed {inner : TypeRef} (legal : LegalType limit inner) :
      Finds (skipMark .bang >>= fun required =>
        if required then pure (TypeRef.nonNull inner) else pure inner) (LegalType limit) :=
    Finds.after (carries_skipMark .bang) fun _ =>
      (Finds.pure ⟨legal.named, legal.within.nonNull⟩).ite (Finds.pure legal)
  refine Finds.after (carries_skipMark .bracketLeft) fun opened => Finds.ite ?_
    ((finds_namedType limit).bind carries_namedType fun _ => closed)
  cases element with
  | none =>
      have never : Finds (fail .nestedTooDeeply : Reader TypeRef) fun _ => False := Finds.fail _
      exact never.bind (carries_fail _) fun _ => False.elim
  | some reader =>
      refine (finds reader rfl).bind (carries reader rfl) fun reference legal => ?_
      exact Finds.after (carries_expectMark .bracketRight) fun _ =>
        (Finds.pure legal).bind (carries_pure _) fun _ => closed

theorem finds_typeRefIn (room : Nat) : Finds (typeRefIn room) (LegalType room) := by
  induction room with
  | zero => exact finds_typeRefWith nofun nofun
  | succ room inductionHypothesis =>
      refine finds_typeRefWith ?_ ?_
      · rintro reader ⟨⟩
        exact carries_typeRefIn room
      · rintro reader ⟨⟩ tokens reference rest proper read
        have legal := inductionHypothesis tokens reference rest proper read
        exact ⟨legal.named, legal.within.list⟩

theorem finds_typeRef : Finds typeRef (LegalType maxNesting) :=
  finds_typeRefIn maxNesting

/-! ## Parts of definitions -/

/-- With nothing behind, an absent description stays absent. -/
theorem carries_description : Carries .nothing description := by
  intro tokens extended value rest more read
  cases here : tokens.head? with
  | some lexeme => exact carriesAt_description here extended value rest more read
  | none =>
      rw [description, head_bind, here] at read
      cases read
      have absent : extended.head? = none := by rw [more.head?, here]; rfl
      refine ⟨extended, ?_, more, LeftOf.refl _⟩
      rw [description, head_bind, absent]
      rfl

theorem finds_directives :
    Finds directives fun applied => ∀ directive ∈ applied, IsName directive.name := by
  have finds : Finds (do
      expectMark .atSign
      let directive ← name
      let arguments ← argumentsIn true maxNesting
      return { name := directive, arguments : Directive }) fun directive => IsName directive.name :=
    Finds.after (carries_expectMark .atSign) fun _ =>
      finds_name.bind carries_name fun _ isName =>
        Finds.after (carries_argumentsIn true maxNesting) fun _ => Finds.pure isName
  have carries : Carries .nothing (do
      expectMark .atSign
      let directive ← name
      let arguments ← argumentsIn true maxNesting
      return { name := directive, arguments : Directive }) :=
    (carries_expectMark .atSign).bind fun _ => carries_name.bind fun _ =>
      (carries_argumentsIn true maxNesting).bind fun _ => carries_pure _
  exact finds.whileMark carries .atSign

/-- The names of a field are names, and the lists in its type are within the limit. -/
structure LegalField (field : FieldDefinition) : Prop where
  named : IsName field.name
  type : LegalType maxNesting field.type

theorem finds_fieldDefinition : Finds fieldDefinition LegalField :=
  Finds.after carries_description fun _ =>
    finds_name.bind carries_name fun _ isName =>
      Finds.after carries_argumentDefinitions fun _ =>
        Finds.after (carries_expectMark .colon) fun _ =>
          finds_typeRef.bind carries_typeRef fun _ legal =>
            Finds.after carries_directives fun _ => Finds.pure ⟨isName, legal⟩

theorem finds_implementedInterfaces :
    Finds implementedInterfaces fun interfaces => ∀ name ∈ interfaces, IsName name :=
  Finds.after (carries_skipKeyword (by decide)) fun _ =>
    (finds_name.separatedBy carries_name .ampersand).ite (Finds.pure (List.forall_mem_nil _))

/-- The names of a type are names, and its fields are legal. -/
structure LegalFields (type : FieldsType) : Prop where
  named : ∀ name ∈ type.names, IsName name
  fields : ∀ field ∈ type.fields, LegalField field

theorem finds_fieldsType (role : Role) (text : Option String) :
    Finds (fieldsType role text) LegalFields := by
  refine finds_name.bind carries_name fun _ isName => ?_
  refine finds_implementedInterfaces.bind carries_implementedInterfaces fun _ interfaces => ?_
  refine finds_directives.bind carries_directives fun _ directives => ?_
  refine (finds_fieldDefinition.optionalBetween carries_fieldDefinition _ _).bind
    (carries_optionalBetween _ _ carries_fieldDefinition) fun _ fields => ?_
  refine Finds.after (carries_requireContent role _) fun _ => Finds.pure ⟨?_, fields⟩
  simp only [FieldsType.names, List.cons_append, List.forall_mem_cons, List.forall_mem_append,
    List.forall_mem_map, List.forall_mem_flatMap, FieldDefinition.names]
  exact ⟨isName, ⟨interfaces, directives⟩,
    fun field member => ⟨(fields field member).named, (fields field member).type.named⟩⟩

theorem finds_enumValue : Finds enumValue fun value => IsName value.name := by
  have finds : Finds enumValueName IsName := by
    refine Finds.afterHead fun found => ?_
    cases found with
    | none => exact finds_name
    | some lexeme => exact (Finds.fail _).ite finds_name
  exact Finds.after carries_description fun _ =>
    finds.bind carries_enumValueName fun _ isName =>
      Finds.after carries_directives fun _ => Finds.pure isName

/-! ## Definitions -/

/-- The names of a definition that can reach an item are names, and the lists in its types are within
the limit. -/
structure LegalDefinition (definition : Definition) : Prop where
  named : ∀ name ∈ definition.names, IsName name
  within : definition.Within maxNesting

/-- Whether a definition has neither fields nor values. -/
def IsBare (definition : Definition) : Prop :=
  definition.names = [] ∧ ∀ limit, definition.Within limit

theorem IsBare.legal {definition : Definition} (bare : IsBare definition) :
    LegalDefinition definition where
  named _ member := absurd (bare.1 ▸ member) List.not_mem_nil
  within := bare.2 maxNesting

theorem finds_introduction_bind (role : Role) (keyword : String)
    {next : Option String → Reader Definition}
    (later : ∀ text, Finds (next text) LegalDefinition) :
    Finds (introduction role keyword >>= next) LegalDefinition :=
  Finds.after (takes_introduction role keyword).carries later

theorem finds_objectType (role : Role) : Finds (objectType role) LegalDefinition :=
  finds_introduction_bind role "type" fun text =>
    (finds_fieldsType role text).map fun _ legal =>
      ⟨legal.named, fun field member => (legal.fields field member).type.within⟩

theorem finds_interfaceType (role : Role) : Finds (interfaceType role) LegalDefinition := by
  refine finds_introduction_bind role "interface" fun text => ?_
  refine (finds_fieldsType role text).map fun _ legal =>
    ⟨?_, fun field member => (legal.fields field member).type.within⟩
  cases role with
  | definition => exact legal.named
  | extension => exact List.forall_mem_nil _

theorem finds_enumType (role : Role) : Finds (enumType role) LegalDefinition := by
  refine finds_introduction_bind role "enum" fun text => ?_
  refine finds_name.bind carries_name fun _ isName => ?_
  refine finds_directives.bind carries_directives fun _ directives => ?_
  refine (finds_enumValue.optionalBetween carries_enumValue _ _).bind
    (carries_optionalBetween _ _ carries_enumValue) fun _ values => ?_
  refine Finds.after (carries_requireContent role _) fun _ => Finds.pure ⟨?_, trivial⟩
  simp only [Definition.names, EnumType.names, List.cons_append, List.forall_mem_cons,
    List.forall_mem_append, List.forall_mem_map]
  exact ⟨isName, directives, values⟩

/-! ### Definitions without fields and values -/

/-- Whatever is read is a bare definition. -/
def ReadsBare (reader : Reader Definition) : Prop :=
  ∀ tokens value rest, reader tokens = .ok (value, rest) → IsBare value

namespace ReadsBare

theorem finds {reader : Reader Definition} (reads : ReadsBare reader) :
    Finds reader LegalDefinition :=
  fun tokens value rest _ read => (reads tokens value rest read).legal

theorem pure {value : Definition} (bare : IsBare value) :
    ReadsBare (Pure.pure value) := by
  rintro tokens given rest ⟨⟩
  exact bare

theorem bind {α : Type} (first : Reader α) {next : α → Reader Definition}
    (reads : ∀ value, ReadsBare (next value)) :
    ReadsBare (first >>= next) := by
  intro tokens value rest read
  obtain ⟨middle, between, -, readNext⟩ := (bind_eq_ok_iff _ _ _ _).1 read
  exact reads middle between value rest readNext

theorem ite {condition : Prop} [Decidable condition] {first second : Reader Definition}
    (readsFirst : ReadsBare first)
    (readsSecond : ReadsBare second) :
    ReadsBare (if condition then first else second) := by
  split
  · exact readsFirst
  · exact readsSecond

end ReadsBare

theorem readsBare_schema (role : Role) : ReadsBare (schema role) := by
  refine .bind _ fun _ => .bind _ fun _ => ?_
  cases role
  · exact .bind _ fun _ => .bind _ fun _ => .pure ⟨rfl, fun _ => trivial⟩
  · exact .bind _ fun _ => .bind _ fun _ => .pure ⟨rfl, fun _ => trivial⟩

theorem readsBare_scalarType (role : Role) : ReadsBare (scalarType role) :=
  .bind _ fun _ => .bind _ fun _ => .bind _ fun _ => .bind _ fun _ =>
    .pure ⟨rfl, fun _ => trivial⟩

theorem readsBare_unionType (role : Role) : ReadsBare (unionType role) := by
  refine .bind _ fun _ => .bind _ fun _ => .bind _ fun _ => .bind _ fun _ => ?_
  have rest (type : UnionType) (empty : Bool) :
      ReadsBare (requireContent role empty >>= fun _ => pure (Definition.union role type)) :=
    .bind _ fun _ => .pure ⟨rfl, fun _ => trivial⟩
  exact .ite (.bind _ fun _ => rest _ _) (.bind _ fun _ => rest _ _)

theorem readsBare_inputObjectType (role : Role) : ReadsBare (inputObjectType role) :=
  .bind _ fun _ => .bind _ fun _ => .bind _ fun _ => .bind _ fun _ => .bind _ fun _ =>
    .pure ⟨rfl, fun _ => trivial⟩

theorem readsBare_directiveType : ReadsBare directiveType :=
  .bind _ fun _ => .bind _ fun _ => .bind _ fun _ => .bind _ fun _ => .bind _ fun _ =>
    .bind _ fun _ => .bind _ fun _ => .bind _ fun _ => .pure ⟨rfl, fun _ => trivial⟩

theorem readsBare_directiveExtension : ReadsBare directiveExtension :=
  .bind _ fun _ => .bind _ fun _ => .bind _ fun _ => .bind _ fun _ => .bind _ fun _ =>
    .pure ⟨rfl, fun _ => trivial⟩

/-! ### All definitions -/

theorem finds_typeSystemReader? {role : Role} {word : String} {reader : Reader Definition}
    (found : typeSystemReader? role word = some reader) :
    Finds reader LegalDefinition := by
  unfold typeSystemReader? at found
  split at found
  · cases found
    exact (readsBare_schema role).finds
  · cases found
    exact (readsBare_scalarType role).finds
  · cases found
    exact finds_objectType role
  · cases found
    exact finds_interfaceType role
  · cases found
    exact (readsBare_unionType role).finds
  · cases found
    exact finds_enumType role
  · cases found
    exact (readsBare_inputObjectType role).finds
  · cases role with
    | definition =>
        cases found
        exact readsBare_directiveType.finds
    | extension =>
        cases found
        exact readsBare_directiveExtension.finds
  · cases found

theorem finds_extension : Finds extension LegalDefinition := by
  intro tokens value rest proper read
  obtain ⟨_, _, reader, _, _, found, readWord⟩ := (extension_eq_ok_iff _ _ _).1 read
  exact finds_typeSystemReader? found tokens value rest proper readWord

/-- What is no operation and no fragment is legal. -/
theorem legal_of_definition {tokens rest : Tokens} {value : Definition}
    (proper : tokens.Proper)
    (read : definition tokens = .ok (value, rest))
    (typeSystem : value.isExecutable = false) :
    LegalDefinition value := by
  obtain ⟨ahead, _, readAhead⟩ := (definition_eq_ok_iff _ _ _).1 read
  obtain ⟨word, introducing⟩ := exists_word_of_definitionBy readAhead typeSystem
  unfold definitionBy at readAhead
  rw [introducing] at readAhead
  cases found : typeSystemReader? .definition word with
  | some reader =>
      simp only [found, Option.some_or] at readAhead
      exact finds_typeSystemReader? found tokens value rest proper readAhead
  | none =>
      cases executable : executableReader? word with
      | some reader =>
          simp only [found, executable, Option.none_or] at readAhead
          exact absurd readAhead
            ((readsExecutable_of_executableReader? executable).ne_ok typeSystem)
      | none =>
          simp only [found, executable, Option.none_or] at readAhead
          split at readAhead
          · cases readAhead
          split at readAhead
          · exact finds_extension tokens value rest proper readAhead
          · exact absurd readAhead (unexpectedAhead_ne_ok _ _ _ _)

theorem legal_of_definitionsToEnd {bound : Nat} {tokens rest : Tokens}
    {definitions : List Definition}
    (proper : tokens.Proper)
    (read : definitionsToEnd bound tokens = .ok (definitions, rest))
    (typeSystem : ∀ definition ∈ definitions, definition.isExecutable = false) :
    ∀ definition ∈ definitions, LegalDefinition definition := by
  -- Each round leaves a part of the tokens, whose names are names as well.
  induction bound using Nat.strongRecOn generalizing tokens definitions with
  | ind bound inductionHypothesis =>
      rcases definitionsToEnd_cases read with ⟨_, rfl⟩ |
        ⟨_, fewer, first, remaining, between, rfl, rfl, readFirst, readRemaining⟩
      · exact List.forall_mem_nil _
      · rw [List.forall_mem_cons] at typeSystem ⊢
        obtain ⟨_, _, left, _⟩ :=
          definition_extends proper.extends_nothing readFirst typeSystem.1
        exact ⟨legal_of_definition proper readFirst typeSystem.1,
          inductionHypothesis fewer (Nat.lt_succ_self fewer) (proper.leftOf left) readRemaining
            typeSystem.2⟩

end Sdl

namespace Document

open Sdl

variable {text : String} {document : Document}

/-- The definitions of a schema text are legal. -/
theorem legal_of_ofText (read : ofText text = .ok document) (typeSystem : document.IsTypeSystem) :
    ∀ definition ∈ document.definitions, LegalDefinition definition := by
  obtain ⟨_, rest, readTokens⟩ := (Reader.run_eq_ok_iff _ _).1 read
  have proper : (Tokens.ofText text).Proper :=
    ⟨Tokens.named_readFrom 0 0 text.toList, (holds_of_ofText read typeSystem).clean⟩
  exact legal_of_definitionsToEnd proper ((document_eq_ok_iff _ _ _).1 readTokens).2 typeSystem

/-- A document that is collected has neither operations nor fragments. -/
theorem isTypeSystem_of_collect {items : List Item}
    (collected : (collect (some document)).run.value = .ok items) :
    document.IsTypeSystem := by
  intro definition member
  obtain ⟨item, resolved⟩ :=
    ((value_collect_eq_ok_iff document items).1 collected).1 definition member
  cases definition with
  | stray part => cases resolved
  | _ => rfl

/-- Everything in a schema text that can reach an item is called by a name. -/
theorem named_of_ofText {items : List Item}
    (read : ofText text = .ok document)
    (collected : (collect (some document)).run.value = .ok items) :
    document.Named :=
  fun definition member =>
    (legal_of_ofText read (isTypeSystem_of_collect collected) definition member).named

/-- The types of the fields in a schema text have a bounded number of lists inside each other. -/
theorem within_of_ofText {items : List Item}
    (read : ofText text = .ok document)
    (collected : (collect (some document)).run.value = .ok items) :
    ∀ definition ∈ document.definitions, definition.Within maxNesting :=
  fun definition member =>
    (legal_of_ofText read (isTypeSystem_of_collect collected) definition member).within

end Document

end SchemaDecl
