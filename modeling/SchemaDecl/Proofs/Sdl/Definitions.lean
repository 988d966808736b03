import SchemaDecl.Proofs.Sdl.Following

/-!
# Definitions with more behind

Every part of the type system is read in the same way if more definitions follow, each reader by the
readers that it is made of.  Where optional parts can be left out at the end of a definition, the
next definition starts with none of the lexemes that such a part starts with.
-/

namespace SchemaDecl.Sdl

open Reader Tokens

variable {later : Continuation}

/-! ## References and values -/

theorem carries_namedType : Carries later namedType :=
  carries_name.map TypeRef.named

theorem carries_typeRefWith {element : Option (Reader TypeRef)}
    (carries : ∀ reader ∈ element, Carries later reader) :
    Carries later (typeRefWith element) := by
  have closed (inner : TypeRef) :
      Carries later (skipMark .bang >>= fun required =>
        if required then pure (TypeRef.nonNull inner) else pure inner) :=
    (carries_skipMark .bang).bind fun required => (carries_pure _).ite (carries_pure _)
  refine (carries_skipMark .bracketLeft).bind fun opened => ?_
  refine Carries.ite ?_ (carries_namedType.bind closed)
  cases element with
  | none => exact (carries_fail .nestedTooDeeply).bind closed
  | some reader =>
      exact (carries reader rfl).bind fun reference =>
        (carries_expectMark .bracketRight).bind fun _ => (carries_pure _).bind closed

theorem carries_typeRefIn (room : Nat) : Carries later (typeRefIn room) := by
  induction room with
  | zero => exact carries_typeRefWith nofun
  | succ room inductionHypothesis =>
      refine carries_typeRefWith ?_
      rintro reader ⟨⟩
      exact inductionHypothesis

theorem carries_typeRef : Carries later typeRef :=
  carries_typeRefIn maxNesting

theorem carries_variableName : Carries later variableName :=
  (carries_expectMark .dollar).bind fun _ => carries_name

theorem variableInConstant_ne_ok {α : Type} (tokens : Tokens) (value : α) (rest : Tokens) :
    variableInConstant tokens ≠ .ok (value, rest) := by
  intro read
  obtain ⟨ahead, between, _, failed⟩ := (bind_eq_ok_iff _ _ _ _).1 read
  cases found : ahead.head? with
  | none =>
      rw [found] at failed
      exact unexpected_ne_ok value rest failed
  | some lexeme =>
      rw [found] at failed
      cases lexeme <;> cases failed

theorem carries_valueWith {nested : Option (Reader Value)}
    (carries : ∀ reader ∈ nested, Carries later reader) (constant : Bool) :
    Carries later (valueWith nested constant) := by
  refine carries_of_demands (demands_head_bind demands_unexpected) ?_
  intro tokens lexeme here
  have taken (value : Value) : CarriesAt later (advance >>= fun _ => pure value) tokens :=
    (carriesAt_advance here).bind fun _ => carries_pure value
  refine carriesAt_head_bind here ?_
  cases lexeme with
  | mark mark =>
      cases mark with
      | bracketLeft =>
          cases nested with
          | none => exact carries_fail _ tokens
          | some reader => exact (carries_anyBetween _ _ (carries reader rfl)).map _ tokens
      | braceLeft =>
          cases nested with
          | none => exact carries_fail _ tokens
          | some reader =>
              have field : Carries later (do
                  let field ← name
                  expectMark .colon
                  let value ← reader
                  return (field, value)) :=
                carries_name.bind fun _ => (carries_expectMark .colon).bind fun _ =>
                  (carries reader rfl).bind fun _ => carries_pure _
              exact (carries_anyBetween _ _ field).map _ tokens
      | dollar =>
          refine Carries.ite ?_ (carries_variableName.map _) tokens
          exact carries_of_ne_ok variableInConstant_ne_ok
      | _ => exact carries_unexpected tokens
  | name text => exact taken _
  | int digits => exact taken _
  | float digits => exact taken _
  | string text => exact taken _
  | blockString text => exact taken _

theorem carries_valueIn (constant : Bool) (room : Nat) : Carries later (valueIn constant room) := by
  induction room with
  | zero =>
      refine carries_valueWith ?_ constant
      rintro reader ⟨⟩
  | succ room inductionHypothesis =>
      refine carries_valueWith ?_ constant
      rintro reader ⟨⟩
      exact inductionHypothesis

theorem carries_argumentsIn (constant : Bool) (room : Nat) :
    Carries later (argumentsIn constant room) :=
  carries_optionalBetween .parenLeft .parenRight <|
    carries_name.bind fun _ => (carries_expectMark .colon).bind fun _ =>
      (carries_valueIn constant room).bind fun _ => carries_pure _

theorem carries_directives : Carries later directives :=
  carries_whileMark .atSign <|
    (carries_expectMark .atSign).bind fun _ => carries_name.bind fun _ =>
      (carries_argumentsIn true maxNesting).bind fun _ => carries_pure _

theorem carries_constant : Carries later constant :=
  carries_valueIn true maxNesting

/-! ## Descriptions -/

theorem carriesAt_description {tokens : Tokens} {lexeme : Lexeme}
    (here : tokens.head? = some lexeme) :
    CarriesAt later description tokens := by
  have taken (text : String) :
      CarriesAt later (advance >>= fun _ => pure (some text)) tokens :=
    (carriesAt_advance here).bind fun _ => carries_pure _
  refine carriesAt_head_bind here ?_
  cases lexeme with
  | string text => exact taken text
  | blockString text => exact taken text
  | mark | name | int | float => exact carries_pure none tokens

variable {α : Type} {next : Option String → Reader α}

theorem demands_description_bind (demands : ∀ text, Demands (next text)) :
    Demands (description >>= next) := by
  intro tokens value rest read nothing
  have absent : description tokens = .ok (none, tokens) := by
    rw [description, head_bind, (head?_eq_none_iff tokens).2 nothing]
    rfl
  rw [bind_of_ok absent] at read
  exact demands none tokens value rest read nothing

/-- What starts with a description can be read on if it demands more than that. -/
theorem carries_description_bind
    (demands : ∀ text, Demands (next text))
    (carries : ∀ text, Carries later (next text)) :
    Carries later (description >>= next) :=
  carries_of_demands (demands_description_bind demands) fun _ _ here =>
    (carriesAt_description here).bind carries

/-! ## Parts of definitions -/

theorem carries_operation : Carries later operation := by
  refine carries_place_bind (fun start => carries_name.bind fun text => ?_) ?_
  · split
    · exact carries_pure _
    · exact carries_pure _
    · exact carries_pure _
    · exact carries_failAt _ _
  · intro start other tokens value rest
    refine bind_eq_ok_mono fun text between => ?_
    split
    · exact id
    · exact id
    · exact id
    · nofun

theorem carries_rootType : Carries later rootType :=
  carries_operation.bind fun _ => (carries_expectMark .colon).bind fun _ =>
    carries_namedType.bind fun _ => carries_pure _

theorem carries_requireContent (role : Role) (empty : Bool) :
    Carries later (requireContent role empty) :=
  carries_unexpected.ite (carries_pure ())

theorem carries_inputValue : Carries later inputValue := by
  have rest (name : String) (type : TypeRef) (text : Option String) (default : Option Value) :
      Carries later (do
        let directives ← directives
        return ({ name, type, description := text, default, directives } : InputValue)) :=
    carries_directives.bind fun _ => carries_pure _
  refine carries_description_bind (fun text => demands_name.bind _) fun text => ?_
  refine carries_name.bind fun name => (carries_expectMark .colon).bind fun _ => ?_
  refine carries_typeRef.bind fun type => (carries_skipMark .equals).bind fun given => ?_
  refine Carries.ite ?_ ((carries_pure none).bind (rest name type text))
  exact (carries_constant.map some).bind (rest name type text)

theorem carries_argumentDefinitions : Carries later argumentDefinitions :=
  carries_optionalBetween .parenLeft .parenRight carries_inputValue

theorem carries_fieldDefinition : Carries later fieldDefinition :=
  carries_description_bind (fun _ => demands_name.bind _) fun _ =>
    carries_name.bind fun _ => carries_argumentDefinitions.bind fun _ =>
      (carries_expectMark .colon).bind fun _ => carries_typeRef.bind fun _ =>
        carries_directives.bind fun _ => carries_pure _

/-- No definition starts with the word before the interfaces of a type. -/
theorem carries_implementedInterfaces : Carries later implementedInterfaces :=
  (carries_skipKeyword (by decide)).bind fun _ =>
    (carries_separatedBy .ampersand carries_name).ite (carries_pure [])

theorem carries_fieldsType (role : Role) (text : Option String) :
    Carries later (fieldsType role text) :=
  carries_name.bind fun _ => carries_implementedInterfaces.bind fun _ =>
    carries_directives.bind fun _ =>
      (carries_optionalBetween .braceLeft .braceRight carries_fieldDefinition).bind fun _ =>
        (carries_requireContent role _).bind fun _ => carries_pure _

theorem demands_enumValueName : Demands enumValueName :=
  demands_head_bind demands_name

theorem carries_enumValueName : Carries later enumValueName :=
  carries_of_demands demands_enumValueName fun tokens _ here =>
    carriesAt_head_bind here ((carries_fail _).ite carries_name tokens)

theorem carries_enumValue : Carries later enumValue :=
  carries_description_bind (fun _ => demands_enumValueName.bind _) fun _ =>
    carries_enumValueName.bind fun _ => carries_directives.bind fun _ => carries_pure _

theorem carries_directiveLocation : Carries later directiveLocation := by
  refine carries_place_bind (fun start => carries_name.bind fun text => ?_) ?_
  · exact (carries_pure text).ite (carries_failAt _ _)
  · intro start other tokens value rest
    refine bind_eq_ok_mono fun text between => ?_
    split
    · exact id
    · nofun

/-! ## Definitions -/

/-- The reader carries, and it takes at least one token. -/
structure Takes {α : Type} (later : Continuation) (reader : Reader α) : Prop where
  carries : Carries later reader
  shrinks : ∀ tokens extended value rest, tokens.Extends later extended →
    reader tokens = .ok (value, rest) → rest.items.length < tokens.items.length

theorem Takes.bind {α β : Type} {first : Reader α} {next : α → Reader β}
    (takes : Takes later first)
    (carries : ∀ value, Carries later (next value)) :
    Takes later (first >>= next) where
  carries := takes.carries.bind carries
  shrinks := by
    intro tokens extended value rest more read
    obtain ⟨middle, between, readFirst, readNext⟩ := (Reader.bind_eq_ok_iff _ _ _ _).1 read
    obtain ⟨through, _, moreBetween, _⟩ :=
      takes.carries tokens extended middle between more readFirst
    obtain ⟨_, _, _, left⟩ := carries middle between through value rest moreBetween readNext
    exact Nat.lt_of_le_of_lt left.items.length_le
      (takes.shrinks tokens extended middle between more readFirst)

theorem takes_expectKeyword (word : String) : Takes later (expectKeyword word) where
  carries := carries_expectKeyword word
  shrinks := fun _ _ value rest _ read =>
    ((expectKeyword_eq_ok_iff word value rest).1 read).length_lt

/-- The word that introduces a definition is taken, whether it is described or not. -/
theorem takes_introduction (role : Role) (keyword : String) :
    Takes later (introduction role keyword) := by
  have word (text : Option String) : Takes later (do
      expectKeyword keyword
      return text) :=
    (takes_expectKeyword keyword).bind fun _ => carries_pure text
  cases role with
  | extension => exact (takes_expectKeyword "extend").bind fun _ => (word none).carries
  | definition =>
      have demands (text : Option String) : Demands (do
          expectKeyword keyword
          return text) :=
        (demands_expectKeyword keyword).bind _
      refine ⟨carries_description_bind demands fun text => (word text).carries, ?_⟩
      intro tokens extended value rest more read
      obtain ⟨text, between, described, introduced⟩ := (Reader.bind_eq_ok_iff _ _ _ _).1 read
      have nonempty := demands_description_bind demands tokens value rest read
      rw [Ne, ← head?_eq_none_iff] at nonempty
      obtain ⟨lexeme, here⟩ := Option.ne_none_iff_exists'.1 nonempty
      obtain ⟨through, _, moreBetween, left⟩ :=
        carriesAt_description here extended text between more described
      exact Nat.lt_of_lt_of_le
        ((word text).shrinks between through value rest moreBetween introduced)
        left.items.length_le

theorem takes_schema (role : Role) : Takes later (schema role) := by
  have content (text : Option String) (directives : List Directive) (roots : List RootType) :
      Carries later (do
        requireContent role (directives.isEmpty && roots.isEmpty)
        return Definition.schema role { description := text, directives, roots }) :=
    (carries_requireContent role _).bind fun _ => carries_pure _
  refine (takes_introduction role "schema").bind fun text => carries_directives.bind fun given => ?_
  cases role with
  | definition =>
      exact (carries_someBetween .braceLeft .braceRight carries_rootType).bind (content text given)
  | extension =>
      exact (carries_optionalBetween .braceLeft .braceRight carries_rootType).bind
        (content text given)

theorem takes_scalarType (role : Role) : Takes later (scalarType role) :=
  (takes_introduction role "scalar").bind fun _ => carries_name.bind fun _ =>
    carries_directives.bind fun _ => (carries_requireContent role _).bind fun _ => carries_pure _

theorem takes_objectType (role : Role) : Takes later (objectType role) :=
  (takes_introduction role "type").bind fun text => (carries_fieldsType role text).map _

theorem takes_interfaceType (role : Role) : Takes later (interfaceType role) :=
  (takes_introduction role "interface").bind fun text => (carries_fieldsType role text).map _

theorem takes_unionType (role : Role) : Takes later (unionType role) := by
  have content (text : Option String) (name : String) (directives : List Directive)
      (members : List TypeRef) :
      Carries later (do
        requireContent role (directives.isEmpty && members.isEmpty)
        return Definition.union role { name, directives, members, description := text }) :=
    (carries_requireContent role _).bind fun _ => carries_pure _
  refine (takes_introduction role "union").bind fun text => carries_name.bind fun name => ?_
  refine carries_directives.bind fun given => (carries_skipMark .equals).bind fun listed => ?_
  refine Carries.ite ?_ ((carries_pure []).bind (content text name given))
  exact (carries_separatedBy .pipe carries_namedType).bind (content text name given)

theorem takes_enumType (role : Role) : Takes later (enumType role) :=
  (takes_introduction role "enum").bind fun _ => carries_name.bind fun _ =>
    carries_directives.bind fun _ =>
      (carries_optionalBetween .braceLeft .braceRight carries_enumValue).bind fun _ =>
        (carries_requireContent role _).bind fun _ => carries_pure _

theorem takes_inputObjectType (role : Role) : Takes later (inputObjectType role) :=
  (takes_introduction role "input").bind fun _ => carries_name.bind fun _ =>
    carries_directives.bind fun _ =>
      (carries_optionalBetween .braceLeft .braceRight carries_inputValue).bind fun _ =>
        (carries_requireContent role _).bind fun _ => carries_pure _

theorem takes_directiveType : Takes later directiveType :=
  (takes_introduction .definition "directive").bind fun _ =>
    (carries_expectMark .atSign).bind fun _ => carries_name.bind fun _ =>
      carries_argumentDefinitions.bind fun _ => carries_directives.bind fun _ =>
        (carries_skipKeyword (by decide)).bind fun _ =>
          (carries_expectKeyword "on").bind fun _ =>
            (carries_separatedBy .pipe carries_directiveLocation).bind fun _ => carries_pure _

theorem takes_directiveExtension : Takes later directiveExtension :=
  (takes_introduction .extension "directive").bind fun _ =>
    (carries_expectMark .atSign).bind fun _ => carries_name.bind fun _ =>
      carries_directives.bind fun _ =>
        (carries_requireContent .extension _).bind fun _ => carries_pure _

/-- Each reader of the type system takes its definition whatever follows, and definitions start with
the words that introduce them. -/
theorem takes_of_typeSystemReader? {role : Role} {word : String} {reader : Reader Definition}
    (found : typeSystemReader? role word = some reader) :
    Takes later reader ∧ openingWords.contains word = true := by
  unfold typeSystemReader? at found
  split at found
  · cases found
    exact ⟨takes_schema role, rfl⟩
  · cases found
    exact ⟨takes_scalarType role, rfl⟩
  · cases found
    exact ⟨takes_objectType role, rfl⟩
  · cases found
    exact ⟨takes_interfaceType role, rfl⟩
  · cases found
    exact ⟨takes_unionType role, rfl⟩
  · cases found
    exact ⟨takes_enumType role, rfl⟩
  · cases found
    exact ⟨takes_inputObjectType role, rfl⟩
  · cases role with
    | definition =>
        cases found
        exact ⟨takes_directiveType, rfl⟩
    | extension =>
        cases found
        exact ⟨takes_directiveExtension, rfl⟩
  · cases found

end SchemaDecl.Sdl
