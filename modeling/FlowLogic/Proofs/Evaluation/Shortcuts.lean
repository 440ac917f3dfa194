import FlowLogic.Proofs.Evaluation.Failures
import FlowLogic.Proofs.Evaluation.Leniency

/-!
Evaluation with and without a program.  A constant that is one input and a display token on its own
have their results at hand, and never run a program.  What their programs would give is the same, so
the result of a value is always that of its program, converted to the declared type.
-/

namespace FlowLogic

open Outcome

variable {env : Environment} {data bound : Bindings} {program : Node}

theorem Environment.execute_literal (env : Environment) (value : Json) (data : Bindings) :
    env.execute (.literal value) data = .ok value := rfl

theorem Expression.resolve_eq_execute {e : Expression} (compiles : e.lower = .ok program)
    (binds : data.bind e.chained = .ok bound) :
    e.resolve env data = (env.execute program bound).mapError .sandbox := by
  have ran : e.runProgram env data = (env.execute program bound).mapError .sandbox := by
    rw [runProgram, binds, mapError_ok, ok_bind, compiles, mapError_ok, ok_bind]
  unfold resolve
  split
  next label kind payload members =>
    obtain ⟨result, rfl, found⟩ := resolve_of_display env data compiles
    rw [Environment.execute_literal, mapError_ok, ← found, resolve]
  next => exact ran

namespace Value

variable {v : Value}

theorem given_eq_execute (compiles : v.lower = .ok program)
    (binds : data.bind v.chained = .ok bound) :
    v.given env data = (env.execute program bound).mapError .sandbox := by
  obtain ⟨kind, e, dataType⟩ := v
  rw [lower] at compiles
  rw [given]
  cases literal : literalResult? ⟨kind, e, dataType⟩ with
  | some result =>
      simp only [literal] at compiles
      cases compiles
      rw [Environment.execute_literal, mapError_ok]
  | none =>
      simp only [literal] at compiles
      exact Expression.resolve_eq_execute compiles (by rwa [chained] at binds)

/-- A value that compiles has the result of its program on the bindings with the results of its
chains.  A declared type converts that result. -/
theorem result_eq_execute (s : Sandbox) (compiles : v.lower = .ok program)
    (binds : data.bind v.chained = .ok bound) :
    (v.dataType = none →
        v.result s.env data = (s.execute program bound).2.mapError .sandbox) ∧
      ∀ strict, v.resolve s.env data strict =
        (s.execute program bound).2.mapError .sandbox >>= convert strict v.dataType := by
  have resolved : ∀ strict, v.resolve s.env data strict =
      (s.execute program bound).2.mapError .sandbox >>= convert strict v.dataType := by
    intro strict
    rw [resolve_eq_given, given_eq_execute compiles binds, Sandbox.execute_outcome]
  refine ⟨?_, resolved⟩
  intro untyped
  rw [result, resolved, untyped]
  cases (s.execute program bound).2 <;> rfl

theorem result_eq_execute_of_members :
    ∃ (s : Sandbox) (data bound : Bindings) (counting shown : Value) (program constant : Node),
      counting.lower = .ok program ∧ data.bind counting.chained = .ok bound ∧
        counting.dataType = none ∧
        counting.result s.env data = (s.execute program bound).2.mapError .sandbox ∧
        shown.lower = .ok constant ∧ data.bind shown.chained = .ok data ∧ shown.dataType = none ∧
        shown.result s.env data = (s.execute constant data).2.mapError .sandbox := by
  let s := Sandbox.start ⟨Registry.empty, 0⟩
  let data : Bindings := [("tags", .arr [.null])]
  let counting : Value :=
    ⟨.expression, ⟨[.field ⟨"tags", "", .expression, some "count()", none⟩], false⟩, none⟩
  let shown : Value := ⟨.expression, ⟨[.display (.ofText .expression "") .names
    (.arr [.str "x"]) [.plain (.str "x")]], false⟩, none⟩
  obtain ⟨bound, binds⟩ : ∃ bound, data.bind counting.chained = .ok bound := ⟨_, rfl⟩
  have bindsNone : data.bind shown.chained = .ok data := rfl
  exact ⟨s, data, bound, counting, shown, _, _, rfl, binds, rfl,
    (result_eq_execute s rfl binds).1 rfl, rfl, bindsNone, rfl,
    (result_eq_execute s rfl bindsNone).1 rfl⟩

end Value

end FlowLogic
