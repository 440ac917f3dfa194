import FlowLogic.Proofs.Program.Trace

/-!
The whitelist check.  A program whose calls all resolve runs to a value or to the failure of a
registered function; any other program is rejected before it runs, for its first call that does not
resolve.
-/

namespace FlowLogic

open Outcome

/-- What a sandbox makes of a program is settled by its calls alone, wherever they stand in it. -/
theorem Sandbox.execute_by_resolution (s : Sandbox) (program : Node) :
    (program.Resolved s.env.registry → ∀ data,
      (s.execute program data).2 = (program.trace s.env data).outcome.mapError .execution ∧
        (∀ run ∈ (program.trace s.env data).runs, run.Registered s.env.registry) ∧
        ∀ e, (s.execute program data).2 = .error e →
          ∃ run ∈ (program.trace s.env data).runs, ∃ fault,
            run.Fails s.env.clock fault ∧ e = .execution fault) ∧
      ∀ name arguments, Node.Within (.call name arguments) program →
        ¬ s.env.registry.Resolves name arguments.length →
          ∃ fault, program.FirstUnresolved s.env.registry fault ∧
            ∀ data, (s.execute program data).2 = .error (.rejected fault) := by
  constructor
  · intro resolved data
    have sound := Node.trace_sound data resolved
    have outcome : (s.execute program data).2 =
        (program.trace s.env data).outcome.mapError .execution := by
      rw [execute_outcome, Environment.execute_of_resolved data resolved, Node.trace_outcome]
    refine ⟨outcome, sound.registered, fun e failed => ?_⟩
    rw [outcome, mapError_eq_error] at failed
    obtain ⟨fault, failedTrace, rfl⟩ := failed
    obtain ⟨run, member, fails⟩ := sound.failed fault failedTrace
    exact ⟨run, member, fault, fails, rfl⟩
  · intro name arguments within unresolved
    obtain ⟨fault, first⟩ := Node.exists_firstUnresolved within unresolved
    refine ⟨fault, first, fun data => ?_⟩
    rw [execute_outcome, Environment.execute_of_firstUnresolved data first]

theorem Sandbox.execute_by_resolution_with_abs :
    ∃ s : Sandbox,
      (Node.call "abs" [.literal (.str "x")]).Resolved s.env.registry ∧
        (∀ e, (s.execute (.call "abs" [.literal (.str "x")]) []).2 = .error e →
          ∃ fault, e = .execution fault) ∧
        Node.Within (.call "nope" []) (.logical .or [.literal (.bool true), .call "nope" []]) ∧
        ¬ s.env.registry.Resolves "nope" 0 ∧
        ∃ fault, (s.execute (.logical .or [.literal (.bool true), .call "nope" []]) []).2 =
          .error (.rejected fault) := by
  let s := Sandbox.start ⟨Registry.empty.addFunction "abs" "math" .plain .abs, 0⟩
  have resolved : (Node.call "abs" [.literal (.str "x")]).Resolved s.env.registry := by
    rw [Node.resolved_iff_calls]
    rintro call member
    obtain rfl : call = ("abs", 1) := by
      simpa [Node.calls, Node.callsAll] using member
    exact .inl ⟨_, rfl, rfl⟩
  have within : Node.Within (.call "nope" [])
      (.logical .or [.literal (.bool true), .call "nope" []]) :=
    .child (by simp [Node.children]) .self
  have unresolved : ¬ s.env.registry.Resolves "nope" 0 := Registry.not_resolves_iff.mpr ⟨_, rfl⟩
  obtain ⟨_, _, failures⟩ := (s.execute_by_resolution _).1 resolved []
  obtain ⟨fault, _, rejected⟩ := (s.execute_by_resolution _).2 _ _ within unresolved
  refine ⟨s, resolved, fun e failed => ?_, within, unresolved, fault, rejected []⟩
  obtain ⟨run, _, cause, _, same⟩ := failures e failed
  exact ⟨cause, same⟩

/-- A function of the name takes so many arguments, or there are none and the name is that of a
constant. -/
def Registry.Offers (registry : Registry) (name : String) (count : Nat) : Prop :=
  (∃ spec, registry.functions.value? name = some spec ∧
      spec.builtin.arity.accepts count = true) ∨
    (count = 0 ∧ ∃ value, registry.constants.value? name = some value)

/-- A function hides the constant of its name, from calls without arguments too. -/
theorem Sandbox.hidden_constant_rejected :
    ∃ registry,
      Registry.empty.registerGroups [⟨"g", .names ["upper"], [("upper", .str "x")]⟩] =
          .ok (registry, 2) ∧
        (∀ name arguments, Node.Within (.call name arguments) (.call "upper" []) →
          registry.Offers name arguments.length) ∧
        ∀ clock data, ((Sandbox.start ⟨registry, clock⟩).execute (.call "upper" []) data).2 =
          .error (.rejected (.wrongArity "upper" (.exactly 1) 0)) := by
  refine ⟨_, rfl, ?_, fun clock data => rfl⟩
  rintro name arguments (_ | ⟨member, _⟩)
  · exact .inr ⟨rfl, .str "x", rfl⟩
  · simp [Node.children] at member

end FlowLogic
