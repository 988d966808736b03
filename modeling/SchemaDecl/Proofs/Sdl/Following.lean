import SchemaDecl.Proofs.Sdl.Lexing
import SchemaDecl.Sdl.Grammar

/-!
# Readers with more behind

What a reader of some part of the type system reads from some tokens it also reads if more lexemes
follow, provided that these start with another definition: no optional part can be mistaken for one.
`Carries` says so of a reader.  It is shown for sequences, choices and lists once, so that the
grammar needs little more than one line for each part.  A description is the exception, since a
definition may start with one; so a reader that starts with a description must demand a token.
-/

namespace SchemaDecl.Sdl

/-! ## More lexemes -/

/-- The words that definitions and extensions of the type system start with. -/
def openingWords : List String :=
  ["schema", "scalar", "type", "interface", "union", "enum", "input", "directive", "extend"]

/-- Whether a definition or an extension of the type system can start with a lexeme. -/
def Lexeme.opens : Lexeme → Bool
  | string _ => true
  | blockString _ => true
  | name word => openingWords.contains word
  | _ => false

/-- The lexemes of more definitions, or none. -/
structure Continuation where
  lexemes : List Lexeme
  opened : ∀ lexeme ∈ lexemes.head?, lexeme.opens = true

/-- Nothing more. -/
def Continuation.nothing : Continuation :=
  ⟨[], nofun⟩

namespace Tokens

/-- Some tokens with more lexemes behind them.  At the end of the tokens there is no fault. -/
structure Extends (later : Continuation) (tokens extended : Tokens) : Prop where
  lexemes : extended.lexemes = tokens.lexemes ++ later.lexemes
  clean : extended.ending.fault = none
  ended : tokens.items = [] → tokens.ending.fault = none

/-- What is left of some tokens. -/
structure LeftOf (tokens rest : Tokens) : Prop where
  items : rest.items <:+ tokens.items
  ending : rest.ending = tokens.ending

theorem LeftOf.refl (tokens : Tokens) : tokens.LeftOf tokens :=
  ⟨List.suffix_rfl, rfl⟩

theorem LeftOf.trans {tokens between rest : Tokens}
    (first : tokens.LeftOf between)
    (second : between.LeftOf rest) :
    tokens.LeftOf rest :=
  ⟨second.items.trans first.items, second.ending.trans first.ending⟩

theorem Passes.leftOf {lexeme : Lexeme} {tokens rest : Tokens}
    (passes : Passes lexeme tokens rest) :
    tokens.LeftOf rest := by
  rw [passes.rest_eq]
  exact ⟨List.tail_suffix _, rfl⟩

theorem head?_eq_head?_lexemes (tokens : Tokens) : tokens.head? = tokens.lexemes.head? := by
  rw [lexemes, List.head?_map]
  rfl

namespace Extends

variable {later : Continuation} {tokens extended : Tokens}

theorem head? (more : tokens.Extends later extended) :
    extended.head? = tokens.head?.or later.lexemes.head? := by
  rw [head?_eq_head?_lexemes, head?_eq_head?_lexemes, more.lexemes, List.head?_append]

/-- Before the end the current token is the same. -/
theorem head?_eq_some (more : tokens.Extends later extended) {lexeme : Lexeme}
    (here : tokens.head? = some lexeme) :
    extended.head? = some lexeme := by
  rw [more.head?, here]
  rfl

/-- At the end nothing but the start of a definition can follow. -/
theorem head?_eq_some_iff (more : tokens.Extends later extended) {lexeme : Lexeme}
    (closed : lexeme.opens = false) :
    extended.head? = some lexeme ↔ tokens.head? = some lexeme := by
  rw [more.head?]
  cases here : tokens.head? with
  | some found => rfl
  | none =>
      simp only [Option.none_or, reduceCtorEq, iff_false]
      intro follows
      have opened := later.opened lexeme follows
      rw [closed] at opened
      cases opened

theorem nonempty (more : tokens.Extends later extended) (nonempty : tokens.items ≠ []) :
    extended.items ≠ [] := by
  rw [Ne, ← head?_eq_none_iff] at nonempty ⊢
  rw [more.head?, Option.or_eq_none_iff]
  exact fun nothing => nonempty nothing.1

theorem length_eq (more : tokens.Extends later extended) :
    extended.items.length = tokens.items.length + later.lexemes.length := by
  simpa [Tokens.lexemes] using congrArg List.length more.lexemes

/-- What is passed over is passed over with more behind. -/
theorem passes (more : tokens.Extends later extended) {lexeme : Lexeme} {rest : Tokens}
    (passes : Passes lexeme tokens rest) :
    ∃ further, Passes lexeme extended further ∧ rest.Extends later further := by
  have someLexemes : tokens.lexemes ≠ [] := mt List.map_eq_nil_iff.1 passes.nonempty
  obtain ⟨rfl, ended⟩ := (checkHead_eq_ok_iff _ rest).1 passes.tail
  refine ⟨_, ⟨more.head?_eq_some passes.head, checkHead_of_clean more.clean⟩, ?_, more.clean,
    ended⟩
  have lexemes := congrArg List.tail more.lexemes
  rw [List.tail_append_of_ne_nil someLexemes] at lexemes
  simpa [Tokens.lexemes, List.map_tail] using lexemes

end Extends

end Tokens

/-! ## Readers -/

namespace Reader

open Tokens

variable {α β : Type} {later : Continuation}

/-- What is read from some tokens is also read if more lexemes follow. -/
def CarriesAt (later : Continuation) (reader : Reader α) (tokens : Tokens) : Prop :=
  ∀ extended value rest, tokens.Extends later extended → reader tokens = .ok (value, rest) →
    ∃ further, reader extended = .ok (value, further) ∧ rest.Extends later further ∧
      tokens.LeftOf rest

/-- What is read from any tokens is also read if more lexemes follow. -/
def Carries (later : Continuation) (reader : Reader α) : Prop :=
  ∀ tokens, CarriesAt later reader tokens

theorem CarriesAt.bind {first : Reader α} {next : α → Reader β} {tokens : Tokens}
    (carriesFirst : CarriesAt later first tokens)
    (carriesNext : ∀ value, Carries later (next value)) :
    CarriesAt later (first >>= next) tokens := by
  intro extended value rest more read
  obtain ⟨middle, between, readFirst, readNext⟩ := (bind_eq_ok_iff _ _ _ _).1 read
  obtain ⟨through, throughFirst, moreBetween, leftBetween⟩ :=
    carriesFirst extended middle between more readFirst
  obtain ⟨further, throughNext, moreRest, leftRest⟩ :=
    carriesNext middle between through value rest moreBetween readNext
  exact ⟨further, (bind_eq_ok_iff _ _ _ _).2 ⟨middle, through, throughFirst, throughNext⟩,
    moreRest, leftBetween.trans leftRest⟩

theorem Carries.bind {first : Reader α} {next : α → Reader β}
    (carriesFirst : Carries later first)
    (carriesNext : ∀ value, Carries later (next value)) :
    Carries later (first >>= next) :=
  fun tokens => (carriesFirst tokens).bind carriesNext

theorem carries_pure (value : α) : Carries later (pure value : Reader α) := by
  intro tokens extended _ _ more read
  obtain ⟨rfl, rfl⟩ := (pure_eq_ok_iff _ _ _).1 read
  exact ⟨extended, rfl, more, LeftOf.refl _⟩

theorem Carries.map {reader : Reader α} (carries : Carries later reader) (change : α → β) :
    Carries later (change <$> reader) := by
  rw [map_eq_pure_bind]
  exact carries.bind fun value => carries_pure (change value)

/-- A reader that never succeeds reads nothing from any tokens. -/
theorem carries_of_ne_ok {reader : Reader α}
    (fails : ∀ tokens value rest, reader tokens ≠ .ok (value, rest)) :
    Carries later reader :=
  fun tokens _ value rest _ read => absurd read (fails tokens value rest)

theorem Carries.ite {condition : Prop} [Decidable condition] {first second : Reader α}
    (carriesFirst : Carries later first)
    (carriesSecond : Carries later second) :
    Carries later (if condition then first else second) := by
  split
  · exact carriesFirst
  · exact carriesSecond

/-- The offset at which reading starts may not matter. -/
theorem carries_place_bind {next : Nat → Reader α}
    (carries : ∀ start, Carries later (next start))
    (anywhere : ∀ start other tokens value rest, next start tokens = .ok (value, rest) →
      next other tokens = .ok (value, rest)) :
    Carries later (place >>= next) := by
  intro tokens extended value rest more read
  obtain ⟨further, through, result⟩ :=
    carries tokens.offset tokens extended value rest more read
  exact ⟨further, anywhere tokens.offset extended.offset extended value further through, result⟩

/-! ### One token -/

theorem carries_peekMark (mark : Mark) : Carries later (peekMark mark) := by
  intro tokens extended found rest more read
  obtain ⟨rfl, rfl⟩ := (pure_eq_ok_iff (tokens.head? == some (.mark mark)) found rest).1 read
  refine ⟨extended, ?_, more, LeftOf.refl _⟩
  have same : (extended.head? == some (Lexeme.mark mark)) =
      (rest.head? == some (Lexeme.mark mark)) := by
    rw [Bool.eq_iff_iff, beq_iff_eq, beq_iff_eq, more.head?_eq_some_iff rfl]
  exact congrArg (fun found => Except.ok (found, extended)) same

/-- A lexeme that no definition starts with is passed over or not, whatever follows. -/
theorem carries_skip {reader : Reader Bool} {lexeme : Lexeme} (closed : lexeme.opens = false)
    (skips : ∀ tokens found rest, reader tokens = .ok (found, rest) ↔
      found = true ∧ Passes lexeme tokens rest ∨
        found = false ∧ tokens.head? ≠ some lexeme ∧ rest = tokens) :
    Carries later reader := by
  intro tokens extended found rest more read
  rcases (skips _ _ _).1 read with ⟨rfl, passes⟩ | ⟨rfl, absent, rfl⟩
  · obtain ⟨further, through, moreRest⟩ := more.passes passes
    exact ⟨further, (skips _ _ _).2 (Or.inl ⟨rfl, through⟩), moreRest, passes.leftOf⟩
  · have absentBehind := mt (more.head?_eq_some_iff closed).1 absent
    exact ⟨extended, (skips _ _ _).2 (Or.inr ⟨rfl, absentBehind, rfl⟩), more, LeftOf.refl _⟩

theorem carries_skipMark (mark : Mark) : Carries later (skipMark mark) :=
  carries_skip rfl fun _ => skipMark_eq_ok_iff mark

theorem carries_skipKeyword {word : String} (closed : (Lexeme.name word).opens = false) :
    Carries later (skipKeyword word) :=
  carries_skip closed fun _ => skipKeyword_eq_ok_iff word

/-- A reader that passes over one lexeme passes over it, whatever follows. -/
theorem carries_pass {reader : Reader α} {lexeme : α → Lexeme}
    (passes : ∀ tokens value rest, reader tokens = .ok (value, rest) ↔
      Passes (lexeme value) tokens rest) :
    Carries later reader := by
  intro tokens extended value rest more read
  have passed := (passes _ _ _).1 read
  obtain ⟨further, through, moreRest⟩ := more.passes passed
  exact ⟨further, (passes _ _ _).2 through, moreRest, passed.leftOf⟩

theorem carries_expectMark (mark : Mark) : Carries later (expectMark mark) :=
  carries_pass fun _ => expectMark_eq_ok_iff mark

theorem carries_expectKeyword (word : String) : Carries later (expectKeyword word) :=
  carries_pass fun _ => expectKeyword_eq_ok_iff word

theorem carries_name : Carries later name :=
  carries_pass fun _ => name_eq_ok_iff

theorem carries_unexpected : Carries later (unexpected : Reader α) :=
  carries_of_ne_ok fun _ => unexpected_ne_ok

theorem carries_fail (cause : Cause) : Carries later (fail cause : Reader α) :=
  carries_of_ne_ok fun _ _ _ => nofun

theorem carries_failAt (offset : Nat) (cause : Cause) :
    Carries later (failAt offset cause : Reader α) :=
  carries_of_ne_ok fun _ _ _ => nofun

/-! ### Readers that demand a token -/

/-- Nothing is read at the end of the tokens. -/
def Demands (reader : Reader α) : Prop :=
  ∀ tokens value rest, reader tokens = .ok (value, rest) → tokens.items ≠ []

theorem Demands.bind {first : Reader α} (demands : Demands first) (next : α → Reader β) :
    Demands (first >>= next) := by
  intro tokens value rest read
  obtain ⟨middle, between, readFirst, _⟩ := (bind_eq_ok_iff _ _ _ _).1 read
  exact demands tokens middle between readFirst

theorem demands_name : Demands name :=
  fun _ text rest read => ((name_eq_ok_iff text rest).1 read).nonempty

theorem demands_head_bind {next : Option Lexeme → Reader α} (demands : Demands (next none)) :
    Demands (head >>= next) := by
  intro tokens value rest read nothing
  rw [head_bind, (head?_eq_none_iff tokens).2 nothing] at read
  exact demands tokens value rest read nothing

theorem demands_unexpected : Demands (unexpected : Reader α) :=
  fun _ value rest read => absurd read (unexpected_ne_ok value rest)

theorem demands_expectKeyword (word : String) : Demands (expectKeyword word) :=
  fun _ value rest read => ((expectKeyword_eq_ok_iff word value rest).1 read).nonempty

/-- A reader that demands a token needs to be looked at only where there is one. -/
theorem carries_of_demands {reader : Reader α} (demands : Demands reader)
    (carriesAt : ∀ tokens lexeme, tokens.head? = some lexeme → CarriesAt later reader tokens) :
    Carries later reader := by
  intro tokens extended value rest more read
  have nonempty := demands tokens value rest read
  rw [Ne, ← head?_eq_none_iff] at nonempty
  obtain ⟨lexeme, here⟩ := Option.ne_none_iff_exists'.1 nonempty
  exact carriesAt tokens lexeme here extended value rest more read

theorem carriesAt_advance {tokens : Tokens} {lexeme : Lexeme}
    (here : tokens.head? = some lexeme) :
    CarriesAt later advance tokens := by
  intro extended _ rest more read
  have passes : Passes lexeme tokens rest := ⟨here, (advance_eq_ok_iff rest).1 read⟩
  obtain ⟨further, through, moreRest⟩ := more.passes passes
  exact ⟨further, (advance_eq_ok_iff further).2 through.tail, moreRest, passes.leftOf⟩

theorem carriesAt_head_bind {next : Option Lexeme → Reader α} {tokens : Tokens} {lexeme : Lexeme}
    (here : tokens.head? = some lexeme)
    (carriesAt : CarriesAt later (next (some lexeme)) tokens) :
    CarriesAt later (head >>= next) tokens := by
  intro extended value rest more read
  rw [head_bind, here] at read
  rw [head_bind, more.head?_eq_some here]
  exact carriesAt extended value rest more read

/-! ### Lists -/

variable {ends starts : Reader Bool} {element : Reader α}

theorem elementsUntil_succ (ends : Reader Bool) (element : Reader α) (bound : Nat) :
    elementsUntil ends element (bound + 1) =
      element >>= fun first => ends >>= fun ended =>
        if ended then pure [first]
        else elementsUntil ends element bound >>= fun rest => pure (first :: rest) := rfl

theorem elementsWhile_succ (starts : Reader Bool) (element : Reader α) (bound : Nat) :
    elementsWhile starts element (bound + 1) =
      starts >>= fun started =>
        if started then element >>= fun first =>
          elementsWhile starts element bound >>= fun rest => pure (first :: rest)
        else pure [] := rfl

theorem carries_elementsUntil
    (carriesEnds : Carries later ends)
    (carriesElement : Carries later element) (bound : Nat) :
    Carries later (elementsUntil ends element bound) := by
  induction bound with
  | zero => exact carries_unexpected
  | succ bound inductionHypothesis =>
      rw [elementsUntil_succ]
      refine carriesElement.bind fun first => carriesEnds.bind fun ended => ?_
      exact (carries_pure _).ite (inductionHypothesis.bind fun rest => carries_pure _)

theorem carries_elementsWhile
    (carriesStarts : Carries later starts)
    (carriesElement : Carries later element) (bound : Nat) :
    Carries later (elementsWhile starts element bound) := by
  induction bound with
  | zero => exact carries_unexpected
  | succ bound inductionHypothesis =>
      rw [elementsWhile_succ]
      refine carriesStarts.bind fun started => ?_
      refine Carries.ite (carriesElement.bind fun first => ?_) (carries_pure _)
      exact inductionHypothesis.bind fun rest => carries_pure _

theorem bind_eq_ok_mono {first : Reader α} {next other : α → Reader β} {tokens rest : Tokens}
    {value : β}
    (follows : ∀ middle between, next middle between = .ok (value, rest) →
      other middle between = .ok (value, rest))
    (read : (first >>= next) tokens = .ok (value, rest)) :
    (first >>= other) tokens = .ok (value, rest) := by
  obtain ⟨middle, between, readFirst, readNext⟩ := (bind_eq_ok_iff _ _ _ _).1 read
  exact (bind_eq_ok_iff _ _ _ _).2 ⟨middle, between, readFirst, follows middle between readNext⟩

/-- More rounds than needed make no difference. -/
theorem elementsUntil_of_le {bound more : Nat} {tokens rest : Tokens} {values : List α}
    (enough : bound ≤ more)
    (read : elementsUntil ends element bound tokens = .ok (values, rest)) :
    elementsUntil ends element more tokens = .ok (values, rest) := by
  induction bound generalizing more tokens values rest with
  | zero => exact absurd read (unexpected_ne_ok values rest)
  | succ bound inductionHypothesis =>
      obtain _ | more := more
      · cases enough
      · rw [elementsUntil_succ] at read ⊢
        refine bind_eq_ok_mono (fun first _ => bind_eq_ok_mono fun ended between => ?_) read
        split
        · exact id
        · rw [bind_eq_ok_iff, bind_eq_ok_iff]
          rintro ⟨others, last, readOthers, done⟩
          exact ⟨others, last, inductionHypothesis (Nat.le_of_succ_le_succ enough) readOthers, done⟩

theorem elementsWhile_of_le {bound more : Nat} {tokens rest : Tokens} {values : List α}
    (enough : bound ≤ more)
    (read : elementsWhile starts element bound tokens = .ok (values, rest)) :
    elementsWhile starts element more tokens = .ok (values, rest) := by
  induction bound generalizing more tokens values rest with
  | zero => exact absurd read (unexpected_ne_ok values rest)
  | succ bound inductionHypothesis =>
      obtain _ | more := more
      · cases enough
      · rw [elementsWhile_succ] at read ⊢
        refine bind_eq_ok_mono (fun started between => ?_) read
        split
        · refine bind_eq_ok_mono fun first between => ?_
          rw [bind_eq_ok_iff, bind_eq_ok_iff]
          rintro ⟨others, last, readOthers, done⟩
          exact ⟨others, last, inductionHypothesis (Nat.le_of_succ_le_succ enough) readOthers, done⟩
        · exact id

/-- With more behind there are not fewer rounds. -/
theorem carries_rounds_bind {next : Nat → Reader α}
    (carries : ∀ bound, Carries later (next bound))
    (enough : ∀ bound more tokens value rest, bound ≤ more →
      next bound tokens = .ok (value, rest) → next more tokens = .ok (value, rest)) :
    Carries later (rounds >>= next) := by
  intro tokens extended value rest more read
  obtain ⟨further, through, result⟩ :=
    carries (tokens.items.length + 1) tokens extended value rest more read
  have longer : tokens.items.length + 1 ≤ extended.items.length + 1 := by
    rw [more.length_eq]
    omega
  exact ⟨further, enough _ _ extended value further longer through, result⟩

theorem carries_someBefore (closing : Mark) (carries : Carries later element) :
    Carries later (someBefore closing element) :=
  carries_rounds_bind (fun bound => carries_elementsUntil (carries_skipMark closing) carries bound)
    fun _ _ _ _ _ enough => elementsUntil_of_le enough

theorem carries_someBetween (opening closing : Mark) (carries : Carries later element) :
    Carries later (someBetween opening closing element) :=
  (carries_expectMark opening).bind fun _ => carries_someBefore closing carries

theorem carries_optionalBetween (opening closing : Mark) (carries : Carries later element) :
    Carries later (optionalBetween opening closing element) :=
  (carries_skipMark opening).bind fun _ =>
    (carries_someBefore closing carries).ite (carries_pure [])

theorem carries_anyBetween (opening closing : Mark) (carries : Carries later element) :
    Carries later (anyBetween opening closing element) :=
  (carries_expectMark opening).bind fun _ =>
    carries_rounds_bind
      (fun bound => carries_elementsWhile ((carries_skipMark closing).map not) carries bound)
      fun _ _ _ _ _ enough => elementsWhile_of_le enough

theorem carries_separatedBy (separator : Mark) (carries : Carries later element) :
    Carries later (separatedBy separator element) :=
  (carries_skipMark separator).bind fun _ =>
    carries_rounds_bind
      (fun bound => carries_elementsUntil ((carries_skipMark separator).map not) carries bound)
      fun _ _ _ _ _ enough => elementsUntil_of_le enough

theorem carries_whileMark (mark : Mark) (carries : Carries later element) :
    Carries later (whileMark mark element) :=
  carries_rounds_bind (fun bound => carries_elementsWhile (carries_peekMark mark) carries bound)
    fun _ _ _ _ _ enough => elementsWhile_of_le enough

end Reader

end SchemaDecl.Sdl
