import SchemaDecl.Sdl.Reader

/-!
# What readers take

A reader that succeeds leaves the tokens behind those it takes.  Here it is told for the readers
that take one token, or none.  Reading in sequence is reading the parts.
-/

namespace SchemaDecl.Sdl

theorem exceptBind_eq_ok_iff {ε α β : Type} (first : Except ε α) (next : α → Except ε β)
    (result : β) :
    first >>= next = .ok result ↔ ∃ value, first = .ok value ∧ next value = .ok result := by
  cases first with
  | error fault => simp [bind, Except.bind]
  | ok value => simp [bind, Except.bind]

namespace Tokens

theorem head?_eq_none_iff (tokens : Tokens) : tokens.head? = none ↔ tokens.items = [] := by
  rw [head?, Option.map_eq_none_iff, List.head?_eq_none_iff]

theorem checkHead_eq_ok_iff (tokens rest : Tokens) :
    tokens.checkHead = .ok rest ↔
      rest = tokens ∧ (tokens.items = [] → tokens.ending.fault = none) := by
  unfold checkHead
  split
  · rename_i fault nothing faulty
    simp [nothing, faulty]
  · rename_i other
    constructor
    · rintro ⟨⟩
      refine ⟨rfl, fun nothing => ?_⟩
      cases faulty : tokens.ending.fault with
      | none => rfl
      | some fault => exact (other fault nothing faulty).elim
    · rintro ⟨rfl, _⟩
      rfl

/-- Tokens without a fault behind them can be read. -/
theorem checkHead_of_clean {tokens : Tokens} (clean : tokens.ending.fault = none) :
    tokens.checkHead = .ok tokens :=
  (checkHead_eq_ok_iff tokens tokens).2 ⟨rfl, fun _ => clean⟩

/-- The current token is a lexeme, and passing over it leaves the rest. -/
structure Passes (lexeme : Lexeme) (tokens rest : Tokens) : Prop where
  head : tokens.head? = some lexeme
  tail : tokens.tail = .ok rest

namespace Passes

variable {lexeme : Lexeme} {tokens rest : Tokens}

theorem nonempty (passes : Passes lexeme tokens rest) : tokens.items ≠ [] := by
  rw [Ne, ← head?_eq_none_iff, passes.head]
  nofun

theorem rest_eq (passes : Passes lexeme tokens rest) :
    rest = { tokens with items := tokens.items.tail } :=
  ((checkHead_eq_ok_iff _ rest).1 passes.tail).1

theorem length_lt (passes : Passes lexeme tokens rest) :
    rest.items.length < tokens.items.length := by
  have nonempty := passes.nonempty
  rw [passes.rest_eq]
  cases same : tokens.items with
  | nil => exact absurd same nonempty
  | cons token items => exact Nat.lt_succ_self _

end Passes

end Tokens

namespace Reader

open Tokens

variable {α β : Type} {tokens : Tokens}

theorem bind_of_ok {first : Reader α} {next : α → Reader β} {rest : Tokens} {value : α}
    (read : first tokens = .ok (value, rest)) :
    (first >>= next) tokens = next value rest := by
  change (first tokens).bind _ = _
  rw [read]
  rfl

theorem bind_of_error {first : Reader α} {next : α → Reader β} {fault : Fault}
    (refused : first tokens = .error fault) :
    (first >>= next) tokens = .error fault := by
  change (first tokens).bind _ = _
  rw [refused]
  rfl

/-- To look at the current token takes none. -/
theorem head_bind (next : Option Lexeme → Reader α) :
    (head >>= next) tokens = next tokens.head? tokens := rfl

/-- A sequence is read if its parts are, one after the other. -/
theorem bind_eq_ok_iff (first : Reader α) (next : α → Reader β) (value : β) (rest : Tokens) :
    (first >>= next) tokens = .ok (value, rest) ↔
      ∃ middle between, first tokens = .ok (middle, between) ∧
        next middle between = .ok (value, rest) := by
  change (first tokens >>= fun read => next read.1 read.2) = _ ↔ _
  rw [exceptBind_eq_ok_iff, Prod.exists]

theorem pure_eq_ok_iff (given value : α) (rest : Tokens) :
    (pure given : Reader α) tokens = .ok (value, rest) ↔ value = given ∧ rest = tokens := by
  change Except.ok (given, tokens) = _ ↔ _
  rw [Except.ok.injEq, Prod.mk.injEq, eq_comm, @eq_comm _ tokens]

theorem unexpected_ne_ok (value : α) (rest : Tokens) : unexpected tokens ≠ .ok (value, rest) :=
  nofun

theorem advance_eq_ok_iff (rest : Tokens) :
    advance tokens = .ok ((), rest) ↔ tokens.tail = .ok rest := by
  unfold advance
  cases tokens.tail <;> simp [Except.map]

theorem lookahead_eq_ok_iff (ahead rest : Tokens) :
    lookahead tokens = .ok (ahead, rest) ↔ tokens.tail = .ok ahead ∧ rest = tokens := by
  unfold lookahead
  cases tokens.tail <;> simp [Except.map, eq_comm]

/-- To pass over a lexeme if it is there tells whether it is. -/
theorem skip_eq_ok_iff (lexeme : Lexeme) (found : Bool) (rest : Tokens) :
    (if tokens.head? = some lexeme then (do advance; return true : Reader Bool) tokens
        else .ok (false, tokens)) = .ok (found, rest) ↔
      found = true ∧ Passes lexeme tokens rest ∨
        found = false ∧ tokens.head? ≠ some lexeme ∧ rest = tokens := by
  by_cases here : tokens.head? = some lexeme
  · rw [if_pos here, bind_eq_ok_iff]
    simp only [pure_eq_ok_iff, here, ne_eq, not_true_eq_false, false_and, and_false, or_false]
    constructor
    · rintro ⟨_, between, passed, rfl, rfl⟩
      exact ⟨rfl, here, (advance_eq_ok_iff rest).1 passed⟩
    · rintro ⟨rfl, passes⟩
      exact ⟨(), rest, (advance_eq_ok_iff rest).2 passes.tail, rfl, rfl⟩
  · rw [if_neg here, Except.ok.injEq, Prod.mk.injEq]
    constructor
    · rintro ⟨rfl, rfl⟩
      exact Or.inr ⟨rfl, here, rfl⟩
    · rintro (⟨_, passes⟩ | ⟨rfl, _, rfl⟩)
      · exact absurd passes.head here
      · exact ⟨rfl, rfl⟩

theorem skipMark_eq_ok_iff (mark : Mark) (found : Bool) (rest : Tokens) :
    skipMark mark tokens = .ok (found, rest) ↔
      found = true ∧ Passes (.mark mark) tokens rest ∨
        found = false ∧ tokens.head? ≠ some (.mark mark) ∧ rest = tokens := by
  have peeked : peekMark mark tokens = .ok (tokens.head? == some (.mark mark), tokens) := rfl
  rw [← skip_eq_ok_iff, skipMark, bind_of_ok peeked]
  simp only [beq_iff_eq]
  split <;> rfl

theorem skipKeyword_eq_ok_iff (word : String) (found : Bool) (rest : Tokens) :
    skipKeyword word tokens = .ok (found, rest) ↔
      found = true ∧ Passes (.name word) tokens rest ∨
        found = false ∧ tokens.head? ≠ some (.name word) ∧ rest = tokens := by
  rw [← skip_eq_ok_iff, skipKeyword, head_bind]
  split <;> rfl

theorem expectMark_eq_ok_iff (mark : Mark) (value : Unit) (rest : Tokens) :
    expectMark mark tokens = .ok (value, rest) ↔ Passes (.mark mark) tokens rest := by
  rw [expectMark, bind_eq_ok_iff]
  constructor
  · rintro ⟨found, between, skipped, read⟩
    rcases (skipMark_eq_ok_iff _ _ _).1 skipped with ⟨rfl, passes⟩ | ⟨rfl, _, rfl⟩
    · cases read
      exact passes
    · cases read
  · intro passes
    exact ⟨true, rest, (skipMark_eq_ok_iff _ _ _).2 (Or.inl ⟨rfl, passes⟩), rfl⟩

theorem expectKeyword_eq_ok_iff (word : String) (value : Unit) (rest : Tokens) :
    expectKeyword word tokens = .ok (value, rest) ↔ Passes (.name word) tokens rest := by
  rw [expectKeyword, bind_eq_ok_iff]
  constructor
  · rintro ⟨found, between, skipped, read⟩
    rcases (skipKeyword_eq_ok_iff _ _ _).1 skipped with ⟨rfl, passes⟩ | ⟨rfl, _, rfl⟩
    · cases read
      exact passes
    · cases read
  · intro passes
    exact ⟨true, rest, (skipKeyword_eq_ok_iff _ _ _).2 (Or.inl ⟨rfl, passes⟩), rfl⟩

theorem name_eq_ok_iff (text : String) (rest : Tokens) :
    name tokens = .ok (text, rest) ↔ Passes (.name text) tokens rest := by
  rw [name, head_bind]
  constructor
  · intro read
    cases here : tokens.head? with
    | none =>
        rw [here] at read
        cases read
    | some found =>
        rw [here] at read
        cases found with
        | name word =>
            obtain ⟨_, between, passed, done⟩ := (bind_eq_ok_iff _ _ _ _).1 read
            obtain ⟨rfl, rfl⟩ := (pure_eq_ok_iff _ _ _).1 done
            exact ⟨here, (advance_eq_ok_iff _).1 passed⟩
        | mark | int | float | string | blockString => cases read
  · intro passes
    rw [passes.head]
    exact bind_of_ok ((advance_eq_ok_iff rest).2 passes.tail)

/-- A whole text is read from its tokens if there is a token or no fault. -/
theorem run_eq_ok_iff (reader : Reader α) (value : α) :
    reader.run tokens = .ok value ↔
      (tokens.items = [] → tokens.ending.fault = none) ∧
        ∃ rest, reader tokens = .ok (value, rest) := by
  rw [run, exceptBind_eq_ok_iff]
  simp only [checkHead_eq_ok_iff, exceptBind_eq_ok_iff]
  constructor
  · rintro ⟨_, ⟨rfl, ended⟩, ⟨_, rest⟩, read, ⟨⟩⟩
    exact ⟨ended, rest, read⟩
  · rintro ⟨ended, rest, read⟩
    exact ⟨tokens, ⟨rfl, ended⟩, (value, rest), read, rfl⟩

theorem run_eq_error {reader : Reader α} {fault : Fault}
    (clean : tokens.ending.fault = none)
    (refused : reader tokens = .error fault) :
    reader.run tokens = .error fault := by
  rw [run, checkHead_of_clean clean]
  change (reader tokens).bind _ = _
  rw [refused]
  rfl

end Reader

end SchemaDecl.Sdl
