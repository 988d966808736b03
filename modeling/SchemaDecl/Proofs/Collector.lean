import Mathlib.Data.List.DropRight
import SchemaDecl.Collector
import SchemaDecl.Proofs.Acceptance

/-!
# What collectors hold

A call of a collector brings the items of the definitions it visits before the first one that is not
well formed.  The list that items are added to holds what the calls since the last visit have
brought.  A list that a visit has given away holds what the visit has brought and what the calls up
to the next visit bring; from then on nothing changes it.
-/

namespace SchemaDecl

theorem Definition.isOk_item?_iff (definition : Definition) :
    definition.item?.isOk = true ↔ definition.WellFormed := by
  rw [← definition.resolves_iff, Resolves]
  cases definition.item? with
  | error fault => simp [Except.isOk, Except.toBool]
  | ok item => simp [Except.isOk, Except.toBool]

instance (definition : Definition) : Decidable definition.WellFormed :=
  decidable_of_iff _ definition.isOk_item?_iff

/-- The items of the definitions before the first one that is not well formed. -/
theorem Collection.items_ofDefinitions_eq (definitions : List Definition) :
    (ofDefinitions definitions).items =
      (definitions.takeWhile fun definition => definition.WellFormed).filterMap
        Definition.given? := by
  induction definitions with
  | nil => rfl
  | cons definition rest inductionHypothesis =>
      rw [ofDefinitions]
      cases outcome : definition.item? with
      | error fault =>
          have faulty : ¬definition.WellFormed := by
            rw [← Definition.resolves_iff]
            rintro ⟨item, gives⟩
            rw [outcome] at gives
            cases gives
          rw [List.takeWhile_cons_of_neg (by simpa using faulty)]
          rfl
      | ok item =>
          have wellFormed : definition.WellFormed := definition.resolves_iff.1 ⟨item, outcome⟩
          rw [List.takeWhile_cons_of_pos (by simpa using wellFormed), List.filterMap_cons]
          cases item with
          | none => simp [Definition.given?, outcome, inductionHypothesis]
          | some item => simp [Definition.given?, outcome, inductionHypothesis]

namespace Collector

/-! ## Single calls -/

/-- Visiting definitions adds what a run over them has collected. -/
theorem visitDefinitions_eq (collector : Collector) (definitions : List Definition) :
    collector.visitDefinitions definitions =
      ⟨({ collector with
            items := collector.items ++ (Collection.ofDefinitions definitions).items },
          (Collection.ofDefinitions definitions).fault),
        (Collection.ofDefinitions definitions).events⟩ := by
  induction definitions generalizing collector with
  | nil => simp [visitDefinitions, Collection.ofDefinitions, pure]
  | cons definition rest inductionHypothesis =>
      rw [visitDefinitions, visitDefinition, Collection.ofDefinitions]
      cases definition.item? with
      | error fault => simp [bind, pure, Logged.tellAll]
      | ok item => simp [bind, pure, Logged.tellAll, inductionHypothesis, List.append_assoc]

/-- Visiting a document begins a list with what a run over it has collected. -/
theorem visit_eq (collector : Collector) (document : Option Document) :
    collector.visit document =
      ⟨({ former := collector.former ++ [collector.items]
          items := (Collection.ofDocument document).items },
          match (Collection.ofDocument document).fault with
          | some fault => .error fault
          | none => .ok (collector.latest + 1)),
        (Collection.ofDocument document).events⟩ := by
  cases document with
  | none => simp [visit, begin, latest, Collection.ofDocument, pure]
  | some document =>
      rw [visit, visitDefinitions_eq, Collection.ofDocument]
      cases fault : (Collection.ofDefinitions document.definitions).fault with
      | some found => simp [bind, pure, begin, fault]
      | none => simp [bind, pure, begin, latest, Logged.tell]

/-- What is collected from a document is the list that a new collector gives away for it. -/
theorem outcome_collect (document : Option Document) :
    (collect document).outcome =
      ((({} : Collector).visit document).value.2.map (({} : Collector).visit document).value.1.list,
        (({} : Collector).visit document).events) := by
  rw [visit_eq, collect]
  cases (Collection.ofDocument document).fault with
  | some found => simp [Attempt.outcome, Except.map]
  | none => simp [Attempt.outcome, Except.map, latest, list]

/-- A call of a collector. -/
inductive Call where
  | visit (document : Option Document)
  | visitDefinition (definition : Definition)

namespace Call

/-- Whether the call visits a single definition and so begins no list. -/
def isSingle : Call → Bool
  | visit _ => false
  | visitDefinition _ => true

/-- The definitions that the call is to visit. -/
def definitions : Call → List Definition
  | visit none => []
  | visit (some document) => document.definitions
  | visitDefinition definition => [definition]

/-- The definitions that the call visits with success: those before the first one that is not well
formed. -/
def visited (call : Call) : List Definition :=
  call.definitions.takeWhile fun definition => definition.WellFormed

/-- The items that the call brings. -/
def gains (call : Call) : List Item :=
  call.visited.filterMap Definition.given?

end Call

/-- The collector after a call, whether it succeeds or not. -/
def after (collector : Collector) : Call → Collector
  | .visit document => (collector.visit document).value.1
  | .visitDefinition definition => (collector.visitDefinition definition).value.1

/-- The fault that a call reports. -/
def faultOf (collector : Collector) : Call → Option DocumentFault
  | .visit document =>
      match (collector.visit document).value.2 with
      | .error fault => some fault
      | .ok _ => none
  | .visitDefinition definition => (collector.visitDefinition definition).value.2

/-- The collector after some calls. -/
def run (collector : Collector) (calls : List Call) : Collector :=
  calls.foldl after collector

@[simp] theorem run_nil (collector : Collector) : collector.run [] = collector := rfl

@[simp] theorem run_cons (collector : Collector) (call : Call) (calls : List Call) :
    collector.run (call :: calls) = (collector.after call).run calls := rfl

theorem run_append (collector : Collector) (first second : List Call) :
    collector.run (first ++ second) = (collector.run first).run second := by
  rw [run, List.foldl_append]
  rfl

theorem ofDocument_eq (document : Option Document) :
    (Collection.ofDocument document).items =
        (Collection.ofDefinitions (Call.visit document).definitions).items ∧
      (Collection.ofDocument document).fault =
        (Collection.ofDefinitions (Call.visit document).definitions).fault := by
  cases document with
  | none => exact ⟨rfl, rfl⟩
  | some document =>
      rw [Collection.ofDocument, Call.definitions]
      cases fault : (Collection.ofDefinitions document.definitions).fault with
      | some found => simp [fault]
      | none => simp

/-- A visit leaves the lists there are as they are and begins one with what it brings. -/
theorem after_visit (collector : Collector) (document : Option Document) :
    collector.after (.visit document) =
      { former := collector.former ++ [collector.items]
        items := (Call.visit document).gains } := by
  rw [after, visit_eq, (ofDocument_eq document).1, Collection.items_ofDefinitions_eq]
  rfl

/-- A single definition adds to the list that was begun last. -/
theorem after_visitDefinition (collector : Collector) (definition : Definition) :
    collector.after (.visitDefinition definition) =
      { collector with
        items := collector.items ++ (Call.visitDefinition definition).gains } := by
  have gained := Collection.items_ofDefinitions_eq [definition]
  rw [Collection.ofDefinitions] at gained
  rw [after, visitDefinition, Call.gains, Call.visited, Call.definitions, ← gained]
  cases definition.item? with
  | error fault => simp
  | ok item => simp [Collection.ofDefinitions]

/-- A call succeeds exactly if all definitions it is to visit are well formed. -/
theorem faultOf_eq_none_iff (collector : Collector) (call : Call) :
    collector.faultOf call = none ↔ ∀ definition ∈ call.definitions, definition.WellFormed := by
  simp only [← Definition.resolves_iff, ← Collection.fault_ofDefinitions_eq_none_iff]
  cases call with
  | visit document =>
      rw [← (ofDocument_eq document).2, faultOf, visit_eq]
      cases (Collection.ofDocument document).fault with
      | some found => simp
      | none => simp
  | visitDefinition definition =>
      rw [faultOf, visitDefinition, Call.definitions, Collection.ofDefinitions]
      cases definition.item? with
      | error found => simp
      | ok item => simp [Collection.ofDefinitions]

theorem latest_after_visit (collector : Collector) (document : Option Document) :
    (collector.after (.visit document)).latest = collector.latest + 1 := by
  rw [after_visit]
  simp [latest]

@[simp] theorem latest_after_visitDefinition (collector : Collector) (definition : Definition) :
    (collector.after (.visitDefinition definition)).latest = collector.latest := by
  rw [after_visitDefinition]
  rfl

/-- The number of a list that is given away is that of the list which items are added to next. -/
theorem number_of_visit {collector : Collector} {document : Option Document} {number : Nat}
    (given : (collector.visit document).value.2 = .ok number) :
    number = (collector.after (.visit document)).latest := by
  rw [visit_eq] at given
  rw [latest_after_visit]
  cases fault : (Collection.ofDocument document).fault with
  | some found => simp [fault] at given
  | none =>
      rw [fault, Except.ok.injEq] at given
      exact given.symm

/-! ## Lists by their numbers -/

@[simp] theorem list_latest (collector : Collector) :
    collector.list collector.latest = collector.items := by
  simp [list, latest]

/-- A call changes no list but the one that items are added to. -/
theorem list_after_of_lt (collector : Collector) (call : Call) {number : Nat}
    (former : number < collector.latest) :
    (collector.after call).list number = collector.list number := by
  have inFormer : number < collector.former.length := former
  cases call with
  | visit document =>
      have inLists : number < (collector.former ++ [collector.items]).length := by
        rw [List.length_append]
        exact Nat.lt_add_right _ inFormer
      rw [after_visit, list, list, List.getElem?_append_left inLists]
  | visitDefinition definition =>
      rw [after_visitDefinition, list, list, List.getElem?_append_left inFormer,
        List.getElem?_append_left inFormer]

theorem latest_le_latest_after (collector : Collector) (call : Call) :
    collector.latest ≤ (collector.after call).latest := by
  cases call with
  | visit document => exact latest_after_visit collector document ▸ Nat.le_succ _
  | visitDefinition definition =>
      exact (latest_after_visitDefinition collector definition).ge

/-- A list that no items are added to is the same after any calls. -/
theorem list_run_of_lt (collector : Collector) (calls : List Call) {number : Nat}
    (former : number < collector.latest) :
    (collector.run calls).list number = collector.list number := by
  induction calls generalizing collector with
  | nil => rfl
  | cons call rest inductionHypothesis =>
      have later := former.trans_le (collector.latest_le_latest_after call)
      exact (inductionHypothesis _ later).trans (collector.list_after_of_lt call former)

/-- The list that items are added to grows by what the calls up to the next visit bring. -/
theorem list_run_latest (collector : Collector) (calls : List Call) :
    (collector.run calls).list collector.latest =
      collector.items ++ (calls.takeWhile Call.isSingle).flatMap Call.gains := by
  induction calls generalizing collector with
  | nil => simp
  | cons call rest inductionHypothesis =>
      rw [run_cons]
      cases call with
      | visit document =>
          have former : collector.latest < (collector.after (.visit document)).latest := by
            rw [latest_after_visit]
            exact Nat.lt_succ_self _
          have unchanged := list_run_of_lt _ rest former
          rw [unchanged, after_visit, List.takeWhile_cons_of_neg (by simp [Call.isSingle])]
          simp [list, latest]
      | visitDefinition definition =>
          have same := collector.latest_after_visitDefinition definition
          rw [← same, inductionHypothesis, after_visitDefinition,
            List.takeWhile_cons_of_pos (by rfl), List.flatMap_cons, List.append_assoc]

/-! ## Histories -/

/-- The last visit among some calls, if there is one, and the calls behind it. -/
def sinceVisit (calls : List Call) : List Call :=
  (calls.rdropWhile Call.isSingle).getLast?.toList ++ calls.rtakeWhile Call.isSingle

/-- What is collected is what the calls since the last visit have brought. -/
theorem items_run (calls : List Call) :
    (run {} calls).items = (sinceVisit calls).flatMap Call.gains := by
  induction calls using List.reverseRecOn with
  | nil => rfl
  | append_singleton calls call inductionHypothesis =>
      rw [run_append, run_cons, run_nil, sinceVisit]
      cases call with
      | visit document =>
          rw [List.rdropWhile_concat_neg _ _ _ (by simp [Call.isSingle]),
            List.rtakeWhile_concat_neg _ _ _ (by simp [Call.isSingle]), after_visit]
          simp
      | visitDefinition definition =>
          rw [List.rdropWhile_concat_pos _ _ _ rfl, List.rtakeWhile_concat_pos _ _ _ rfl,
            after_visitDefinition, inductionHypothesis, sinceVisit]
          simp

/-- After any calls, whether they have succeeded or not, a collector holds what the calls since the
last visit have brought, or all calls if there was no visit.  A call succeeds exactly if all
definitions that it is to visit are well formed.  The list that a successful visit gives away is the
one that items are added to next.  It holds what the visit has brought and what the calls up to the
next visit bring, and is not changed by that visit or by anything behind it. -/
theorem run_holds (calls : List Call) :
    (run {} calls).items = (sinceVisit calls).flatMap Call.gains ∧
    (∀ call, (run {} calls).faultOf call = none ↔
      ∀ definition ∈ call.definitions, definition.WellFormed) ∧
    ∀ document number, ((run {} calls).visit document).value.2 = .ok number →
      number = (run {} (calls ++ [.visit document])).latest ∧
      ∀ later, (run {} (calls ++ .visit document :: later)).list number =
        (Call.visit document).gains ++ (later.takeWhile Call.isSingle).flatMap Call.gains := by
  refine ⟨items_run calls, faultOf_eq_none_iff _, ?_⟩
  intro document number given
  have newest := number_of_visit given
  refine ⟨by rw [run_append, newest]; rfl, fun later => ?_⟩
  rw [run_append, run_cons, newest, list_run_latest, after_visit]

/-- An enum without values. -/
def plainEnum (name : String) : Definition :=
  .enum .definition { name }

/-- The item of an enum without values. -/
def plainItem (name : String) : Item :=
  { name, kind := .enum }

/-- A visit that succeeds, two single definitions, the first of which is none, a visit that fails
within its document, and another single definition. -/
def harbourCalls : List Call :=
  let outside : Definition := .stray (.node "operation_definition")
  [.visit (some ⟨[plainEnum "Port"]⟩), .visitDefinition outside,
   .visitDefinition (plainEnum "Pier"), .visit (some ⟨[plainEnum "Buoy", outside]⟩),
   .visitDefinition (plainEnum "Crane")]

/-- The list of the first visit has grown up to the second one, and the list of the failing visit is
the one that is added to since. -/
theorem run_harbourCalls_holds :
    ((run {} []).visit (some ⟨[plainEnum "Port"]⟩)).value.2 = .ok 1 ∧
      (run {} harbourCalls).list 1 = [plainItem "Port", plainItem "Pier"] ∧
      (run {} harbourCalls).items = [plainItem "Buoy", plainItem "Crane"] := by
  have given : ((run {} []).visit (some ⟨[plainEnum "Port"]⟩)).value.2 = .ok 1 := rfl
  have ⟨_, held⟩ := (run_holds []).2.2 _ _ given
  refine ⟨given, ?_, ?_⟩
  · exact held harbourCalls.tail
  · exact (run_holds harbourCalls).1

end Collector

end SchemaDecl
