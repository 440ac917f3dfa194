import FlowLogic.Proofs.Transform.Joining
import Mathlib.Data.List.Chain

/-!
The kinds of the values that pass through a chain.  Every step has one kind of results, so the steps
can be seen to fit together before there is a value.  A chain whose steps do not fit fails on every
value; one whose steps fit can fail only at its first step, or where a text is to be a number.
-/

namespace FlowLogic

open Outcome

namespace Transform

def output : Transform → Json.Kind
  | .toNumber | .toString | .toJson | .join _ => .string
  | .toArray => .array
  | .toBoolean | .empty => .boolean
  | .count => .number

variable {step : Transform} {value result : Json}

theorem numberText_cases (value : Json) :
    (∃ text, numberText value = .ok (.str text)) ∨
      ∃ text, numberText value = .error (.notNumeric .toNumber text) := by
  unfold numberText
  split
  next => exact .inl ⟨_, rfl⟩
  next => exact .inl ⟨_, rfl⟩
  next => exact .inl ⟨_, rfl⟩
  next =>
    split
    next => exact .inl ⟨_, rfl⟩
    next => exact .inr ⟨_, rfl⟩

theorem applyAccepted_cases (step : Transform) (value : Json) :
    (∃ result, step.applyAccepted value = .ok result ∧ result.kind = step.output) ∨
      step = .toNumber ∧
        ∃ text, step.applyAccepted value = .error (.notNumeric .toNumber text) := by
  cases step with
  | toNumber =>
      apply (numberText_cases value).imp
      · intro read
        obtain ⟨text, read⟩ := read
        exact ⟨.str text, read, rfl⟩
      · intro refused
        exact ⟨rfl, refused⟩
  | toString | toJson | toBoolean | empty =>
      exact .inl ⟨_, rfl, rfl⟩
  | toArray =>
      apply Or.inl
      cases value <;> exact ⟨_, rfl, rfl⟩
  | count =>
      apply Or.inl
      cases value <;> exact ⟨_, rfl, Json.kind_ofNat _⟩
  | join separator =>
      apply Or.inl
      cases value <;> exact ⟨_, rfl, rfl⟩

theorem apply_of_accepts (accepted : step.accepts value.kind = true) :
    step.apply value = step.applyAccepted value := by
  rw [Transform.apply, if_pos accepted]

theorem apply_of_refuses (refused : step.accepts value.kind = false) :
    step.apply value = .error (.wrongKind step value.kind) := by
  rw [Transform.apply, refused]
  rfl

theorem kind_of_apply (applied : step.apply value = .ok result) : result.kind = step.output := by
  cases accepted : step.accepts value.kind with
  | false =>
      rw [apply_of_refuses accepted] at applied
      cases applied
  | true =>
      rw [apply_of_accepts accepted] at applied
      rcases applyAccepted_cases step value with ⟨given, delivered, kind⟩ | ⟨_, text, failed⟩
      · rw [applied] at delivered
        rw [Except.ok.inj delivered, kind]
      · rw [applied] at failed
        cases failed

end Transform

namespace Chain

def WellTyped (steps : Chain) : Prop :=
  steps.IsChain fun step next => next.accepts step.output = true

instance : DecidablePred WellTyped := fun steps =>
  inferInstanceAs (Decidable (steps.IsChain fun step next => next.accepts step.output = true))

/-- The chain ends at a conversion to a number, with the error of the conversion on the result of
the steps before it. -/
def StopsAtNumber (steps : Chain) (value : Json) : Prop :=
  ∃ before after input text, steps = before ++ .toNumber :: after ∧
    apply before value = .ok input ∧
    Transform.toNumber.apply input = .error (.notNumeric .toNumber text) ∧
    apply steps value = .error (.notNumeric .toNumber text)

variable {step first next : Transform} {rest : Chain} {value result : Json}

theorem apply_cons_of_ok (applied : step.apply value = .ok result) (rest : Chain) :
    apply (step :: rest) value = apply rest result := by
  rw [apply, applied, ok_bind]

theorem StopsAtNumber.cons (stops : StopsAtNumber rest result)
    (applied : step.apply value = .ok result) : StopsAtNumber (step :: rest) value := by
  obtain ⟨before, after, input, text, split, reached, refused, failed⟩ := stops
  refine ⟨step :: before, after, input, text, ?_, ?_, refused, ?_⟩
  · rw [split, List.cons_append]
  · rw [apply_cons_of_ok applied, reached]
  · rw [apply_cons_of_ok applied, failed]

theorem apply_of_mismatch (mismatch : next.accepts step.output = false) (before after : Chain)
    (value : Json) :
    ∃ failure, apply (before ++ step :: next :: after) value = .error failure := by
  rw [apply_append]
  cases reached : apply before value with
  | error failure => exact ⟨failure, rfl⟩
  | ok input =>
      rw [ok_bind, apply]
      cases applied : step.apply input with
      | error failure => exact ⟨failure, rfl⟩
      | ok output =>
          have refused : next.accepts output.kind = false := by
            rw [Transform.kind_of_apply applied, mismatch]
          rw [ok_bind, apply, Transform.apply_of_refuses refused]
          exact ⟨_, rfl⟩

theorem exists_mismatch {steps : Chain} (untyped : ¬ steps.WellTyped) :
    ∃ before step next after, steps = before ++ step :: next :: after ∧
      next.accepts step.output = false := by
  by_contra all
  apply untyped
  rw [WellTyped, List.isChain_iff_forall_rel_of_append_cons_cons]
  intro step next before after split
  by_contra refused
  exact all ⟨before, step, next, after, split, Bool.eq_false_iff.mpr refused⟩

theorem stopsAtNumber_of_first {text : String}
    (failed : Transform.toNumber.apply value = .error (.notNumeric .toNumber text)) (rest : Chain) :
    StopsAtNumber (.toNumber :: rest) value := by
  refine ⟨[], rest, value, text, rfl, rfl, failed, ?_⟩
  rw [apply, failed, error_bind]

theorem apply_of_accepted (typed : WellTyped (first :: rest))
    (accepted : first.accepts value.kind = true) :
    (∃ result, apply (first :: rest) value = .ok result ∧
        result.kind = ((first :: rest).getLast (List.cons_ne_nil first rest)).output) ∨
      StopsAtNumber (first :: rest) value := by
  induction rest generalizing first value with
  | nil =>
      rcases first.applyAccepted_cases value with ⟨result, applied, kind⟩ | ⟨rfl, text, failed⟩
      · rw [← Transform.apply_of_accepts accepted] at applied
        exact .inl ⟨result, apply_cons_of_ok applied [], kind⟩
      · rw [← Transform.apply_of_accepts accepted] at failed
        exact .inr (stopsAtNumber_of_first failed [])
  | cons next rest ih =>
      rcases first.applyAccepted_cases value with ⟨output, applied, kind⟩ | ⟨rfl, text, failed⟩
      · rw [← Transform.apply_of_accepts accepted] at applied
        obtain ⟨fits, typedRest⟩ := List.isChain_cons_cons.mp typed
        have acceptedNext : next.accepts output.kind = true := by rw [kind, fits]
        apply (ih typedRest acceptedNext).imp
        · intro delivers
          obtain ⟨result, delivered, kindLast⟩ := delivers
          refine ⟨result, ?_, ?_⟩
          · rw [apply_cons_of_ok applied, delivered]
          · rw [kindLast, List.getLast_cons_cons]
        · intro stops
          exact stops.cons applied
      · rw [← Transform.apply_of_accepts accepted] at failed
        exact .inr (stopsAtNumber_of_first failed (next :: rest))

/-- A chain with a step that does not take what the step before it gives fails on every value.  Any
other gives a value of the kind of its last step, unless its first step does not take the value or
a conversion to a number fails. -/
theorem apply_by_kinds (steps : Chain) (value : Json) :
    (¬ steps.WellTyped → ∃ failure, steps.apply value = .error failure) ∧
      (steps.WellTyped →
        (∃ result, steps.apply value = .ok result ∧
            ∀ last, steps.getLast? = some last → result.kind = last.output) ∨
          (∃ first, steps.head? = some first ∧ first.accepts value.kind = false ∧
            steps.apply value = .error (.wrongKind first value.kind)) ∨
          steps.StopsAtNumber value) := by
  constructor
  · intro untyped
    obtain ⟨before, step, next, after, split, mismatch⟩ := exists_mismatch untyped
    rw [split]
    exact apply_of_mismatch mismatch before after value
  · intro typed
    cases steps with
    | nil => exact .inl ⟨value, rfl, nofun⟩
    | cons first rest =>
        cases accepted : first.accepts value.kind with
        | true =>
            apply (apply_of_accepted typed accepted).imp
            · intro delivers
              obtain ⟨result, delivered, kind⟩ := delivers
              refine ⟨result, delivered, ?_⟩
              intro last final
              rw [List.getLast?_eq_some_getLast (List.cons_ne_nil first rest)] at final
              rw [kind, Option.some.inj final]
            · exact Or.inr
        | false =>
            apply Or.inr
            apply Or.inl
            refine ⟨first, rfl, accepted, ?_⟩
            rw [apply, Transform.apply_of_refuses accepted, error_bind]

theorem apply_by_kinds_of_listed_text :
    (¬ WellTyped [.toArray, .toNumber, .toString] ∧
        ∃ failure, apply [.toArray, .toNumber, .toString] (.str "7") = .error failure) ∧
      WellTyped [.toArray, .join "", .toNumber, .toArray] ∧
        StopsAtNumber [.toArray, .join "", .toNumber, .toArray] (.str "x") := by
  have untyped : ¬ WellTyped [.toArray, .toNumber, .toString] := by decide
  have typed : WellTyped [.toArray, .join "", .toNumber, .toArray] := by decide
  have failed := (apply_by_kinds _ (.str "7")).1 untyped
  refine ⟨⟨untyped, failed⟩, typed, ?_⟩
  have outcome := (apply_by_kinds _ (.str "x")).2 typed
  rcases outcome with ⟨result, delivered, _⟩ | ⟨first, same, refused, _⟩ | stops
  · cases delivered
  · cases same
    cases refused
  · exact stops

end Chain

end FlowLogic
