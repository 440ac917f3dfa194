import FlowLogic.Proofs.Condition.Result
import FlowLogic.Proofs.Program.Trace

/-!
The failures that a check leaves open.  Once the program of a definition is known to compile and to
resolve, evaluation can fail in a chain, in a function or in the conversion of the result alone.
-/

namespace FlowLogic

open Outcome

/-- A failure that no check of the definition can tell beforehand.  A function that refuses a date
format fails itself; a result that does not fit its type is a failure of strict evaluation. -/
inductive FlowError.Arises (env : Environment) (strict : Bool) : FlowError → Prop
  | transform (failure : TransformError) : Arises env strict (.transform failure)
  | call {run : FunctionRun} {failure : CallFailure}
      (registered : run.Registered env.registry)
      (failed : run.builtin.run env.clock run.arguments = .error failure) :
      Arises env strict (.sandbox (.execution (.failed run.code failure)))
  | coercion (failure : CoercionError) (asked : strict = true) :
      Arises env strict (.coercion failure)

variable {env : Environment} {data : Bindings} {strict : Bool} {error : FlowError}

theorem Environment.execute_arises {program : Node} (resolved : program.Resolved env.registry)
    (failed : (env.execute program data).mapError .sandbox = .error error) :
    error.Arises env strict := by
  have sound := Node.trace_sound data resolved
  rw [Environment.execute_of_resolved data resolved, ← Node.trace_outcome] at failed
  obtain ⟨_, failedExecution, rfl⟩ := mapError_eq_error.mp failed
  obtain ⟨fault, failedTrace, rfl⟩ := mapError_eq_error.mp failedExecution
  obtain ⟨run, member, failure, failedRun, rfl⟩ := sound.failed fault failedTrace
  exact .call (sound.registered run member) failedRun

theorem Value.convert_arises {dataType : Option DataType} {result : Json}
    (failed : Value.convert strict dataType result = .error error) : error.Arises env strict := by
  unfold Value.convert at failed
  split at failed
  next => cases failed
  next =>
    split at failed
    next => cases failed
    next misfit _ =>
      split at failed
      next asked =>
        cases failed
        exact .coercion misfit asked
      next => cases failed

theorem Bindings.bind_arises {tokens : List Token}
    (refused : (data.bind tokens).mapError .transform = .error error) :
    error.Arises env strict := by
  obtain ⟨failure, _, rfl⟩ := mapError_eq_error.mp refused
  exact .transform failure

theorem Expression.runProgram_arises {e : Expression} {program : Node}
    (lowered : e.lower = .ok program) (resolved : program.Resolved env.registry)
    (failed : e.runProgram env data = .error error) : error.Arises env strict := by
  unfold runProgram at failed
  rcases bind_eq_error.mp failed with refused | ⟨bound, _, failed⟩
  · exact Bindings.bind_arises refused
  · rw [lowered, mapError_ok, ok_bind] at failed
    exact Environment.execute_arises resolved failed

theorem Member.resolveAll_of_fixed {kind : DisplayKind} {members : List Member} {ids : List Json}
    (fixed : Member.fixedIds kind members = .ok ids) :
    Member.resolveAll env data members = .ok ids := by
  induction members generalizing ids with
  | nil =>
      cases fixed
      rfl
  | cons member rest ih =>
      cases member with
      | plain id =>
          simp only [fixedIds, bind_eq_ok] at fixed
          obtain ⟨others, fixedRest, returned⟩ := fixed
          cases returned
          simp only [resolveAll, ih fixedRest, ok_bind]
          rfl
      | reference | blankReference | brokenReference => cases fixed

theorem Expression.resolve_of_display (env : Environment) (data : Bindings) {label : Label}
    {kind : DisplayKind} {payload : Json} {members : List Member} {program : Node}
    (lowered : Expression.lower ⟨[.display label kind payload members], false⟩ = .ok program) :
    ∃ result, program = .literal result ∧
      Expression.resolve env data ⟨[.display label kind payload members], false⟩ = .ok result := by
  simp only [lower_alone, Token.lower, Token.lowerDisplay] at lowered
  rw [Expression.resolve]
  cases lists : kind.listsMembers with
  | true =>
      rw [if_pos lists] at lowered
      obtain ⟨ids, fixed, same⟩ := map_eq_ok.mp lowered
      exact ⟨.arr ids, same.symm, by simp [Member.resolveAll_of_fixed fixed]⟩
  | false =>
      cases fixed : kind.fixedValue payload with
      | error refused => simp [lists, fixed] at lowered
      | ok result =>
          simp only [lists, fixed] at lowered
          cases lowered
          exact ⟨result, rfl, rfl⟩

theorem Expression.resolve_arises {e : Expression} {program : Node}
    (lowered : e.lower = .ok program) (resolved : program.Resolved env.registry)
    (failed : e.resolve env data = .error error) : error.Arises env strict := by
  have outcome := failed
  unfold Expression.resolve at failed
  split at failed
  next label kind payload members =>
    obtain ⟨result, _, found⟩ := resolve_of_display env data lowered
    cases found.symm.trans outcome
  next tokens template _ => exact runProgram_arises lowered resolved failed

theorem Value.resolve_arises {v : Value} {program : Node} (lowered : v.lower = .ok program)
    (resolved : program.Resolved env.registry) (failed : v.resolve env data strict = .error error) :
    error.Arises env strict := by
  obtain ⟨kind, e, dataType⟩ := v
  simp only [Value.lower] at lowered
  simp only [Value.resolve] at failed
  split at failed
  next result literal => exact Value.convert_arises failed
  next literal =>
    simp only [literal] at lowered
    rcases bind_eq_error.mp failed with failed | ⟨result, _, failed⟩
    · exact Expression.resolve_arises lowered resolved failed
    · exact Value.convert_arises failed

theorem Condition.result_arises {c : Condition} {document : Json}
    (accepted : readChecked env.registry document = .ok (some c))
    (failed : c.result env data = .error error) : error.Arises env false := by
  obtain ⟨_, program, lowered, resolved⟩ := readChecked_eq_some accepted
  unfold result at failed
  rcases bind_eq_error.mp failed with refused | ⟨bound, _, failed⟩
  · exact Bindings.bind_arises refused
  · rw [lowered, mapError_ok, ok_bind] at failed
    rcases bind_eq_error.mp failed with failed | ⟨_, _, returned⟩
    · exact Environment.execute_arises resolved failed
    · cases returned

/-- Evaluation of a definition that was checked fails only as no check can tell. -/
theorem Sandbox.failures_of_checked (s : Sandbox) (data : Bindings) :
    (∀ document c, Condition.readChecked s.env.registry document = .ok (some c) →
      ∀ error, c.result s.env data = .error error → error.Arises s.env false) ∧
      ∀ (v : Value) (program : Node), v.lower = .ok program → (s.check program).2 = .ok () →
        (∀ error, v.result s.env data = .error error → error.Arises s.env true) ∧
          ∀ error, v.lenientResult s.env data = .error error → error.Arises s.env false := by
  constructor
  · intro document c accepted error failed
    exact Condition.result_arises accepted failed
  · intro v program lowered checked
    rw [check_outcome] at checked
    have resolved := Registry.check_eq_ok.mp checked
    constructor
    · intro error failed
      exact Value.resolve_arises lowered resolved failed
    · intro error failed
      exact Value.resolve_arises lowered resolved failed

theorem Sandbox.failures_of_checked_abs :
    ∃ (s : Sandbox) (data : Bindings) (document : Json) (c : Condition) (v : Value)
      (program : Node),
      Condition.readChecked s.env.registry document = .ok (some c) ∧
        v.lower = .ok program ∧ (s.check program).2 = .ok () ∧
        (∃ error, c.result s.env data = .error error ∧ error.Arises s.env false) ∧
        ∃ error, v.result s.env data = .error error ∧ error.Arises s.env true := by
  let s := Sandbox.start ⟨Registry.empty.addFunction "abs" "math" .plain .abs, 0⟩
  let called : Json := .obj [("type", .str "method"), ("value", .str "abs"), ("args", .arr [
    .obj [("expression_value", .arr [.obj [("type", .str "field"), ("value", .str "user")]])]])]
  let document : Json := .obj [("children", .arr [
    .obj [("operands", .obj [("expression_value", .arr [called])])]])]
  let v : Value := ⟨.expression, ⟨[.field (.ofText .expression "user")], false⟩, some .number⟩
  obtain ⟨conditions, values⟩ := s.failures_of_checked [("user", .arr [])]
  have failedCondition := conditions document _ rfl _ rfl
  have failedValue := (values v _ rfl rfl).1 _ rfl
  exact ⟨s, [("user", .arr [])], document, _, v, _, rfl, rfl, rfl,
    ⟨_, rfl, failedCondition⟩, _, rfl, failedValue⟩

end FlowLogic
