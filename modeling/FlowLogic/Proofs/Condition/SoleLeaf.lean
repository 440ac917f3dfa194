import FlowLogic.Proofs.Condition.Result

/-!
Conditions with a single leaf.  The groups around it add nothing: the condition compiles and is
accepted where the leaf is, and its result is the verdict of the leaf.
-/

namespace FlowLogic

open Outcome

/-- The leaf is all there is to the condition, in a group or in several groups one in another. -/
inductive Condition.SoleLeaf (leaf : ConditionChild) : Condition → Prop
  | alone (connective : Connective) : SoleLeaf leaf ⟨connective, [leaf]⟩
  | inner (connective : Connective) {c : Condition} (inside : SoleLeaf leaf c) :
      SoleLeaf leaf ⟨connective, [.group c]⟩

/-- The programs make the same calls, and they fail alike or give truths of which the first is `f` of
the second. -/
structure Node.TruthOf (f : Bool → Bool) (program node : Node) : Prop where
  calls : program.calls = node.calls
  truth : ∀ env data, (program.eval env data).map Json.isTrue =
    ((node.eval env data).map Json.isTrue).map f

namespace Node.TruthOf

variable {f g : Bool → Bool} {program middle node : Node}

theorem trans (outer : program.TruthOf f middle) (inner : middle.TruthOf g node) :
    program.TruthOf (f ∘ g) node := by
  refine ⟨outer.calls.trans inner.calls, fun env data => ?_⟩
  rw [outer.truth, inner.truth]
  cases node.eval env data <;> rfl

theorem singleton (connective : Connective) (node : Node) :
    (logical connective [node]).TruthOf id node := by
  constructor
  · simp [Node.calls, callsAll]
  · intro env data
    simp only [eval, evalLogical]
    cases node.eval env data with
    | error fault => rfl
    | ok value =>
        simp only [ok_bind, map_ok]
        cases connective <;> cases value.isTrue <;> rfl

theorem paren (same : program.TruthOf f node) : (Node.paren program).TruthOf f (.paren node) :=
  ⟨same.calls, same.truth⟩

theorem check_eq (same : program.TruthOf f node) (registry : Registry) :
    registry.check program = registry.check node := by
  rw [Registry.check, Registry.check, same.calls]

theorem execute_eq (same : program.TruthOf f node) (env : Environment) (data : Bindings) :
    (env.execute program data).map Json.isTrue =
      ((env.execute node data).map Json.isTrue).map f := by
  have runs (program : Node) : (env.run program data).map Json.isTrue =
      ((program.eval env data).map Json.isTrue).mapError .execution := by
    rw [Environment.run]
    cases program.eval env data <;> rfl
  rw [Environment.execute, Environment.execute, same.check_eq]
  cases env.registry.check node with
  | error refused => rfl
  | ok =>
      rw [runs, runs, same.truth]
      cases node.eval env data <;> rfl

end Node.TruthOf

namespace ConditionChild

def accept (registry : Registry) (child : ConditionChild) : Except FlowError Unit := do
  let program ← child.lower.mapError .compile
  (registry.check program).mapError .ineffective

def computed (env : Environment) (data : Bindings) (child : ConditionChild) :
    Except FlowError Bool := do
  let program ← child.lower.mapError .compile
  ((env.execute program data).map Json.isTrue).mapError .sandbox

theorem computed_eq_ok {env : Environment} {data : Bindings} {child : ConditionChild}
    {truth : Bool} :
    child.computed env data = .ok truth ↔
      ∃ node value, child.lower = .ok node ∧ node.Resolved env.registry ∧
        node.eval env data = .ok value ∧ value.isTrue = truth := by
  simp only [computed, bind_eq_ok, mapError_eq_ok, map_eq_ok, Environment.execute_eq_ok, and_assoc,
    exists_and_left]

end ConditionChild

namespace Condition

theorem verdict_singleton (env : Environment) (data : Bindings) (connective : Connective)
    (child : ConditionChild) :
    verdict env data ⟨connective, [child]⟩ = child.verdict env data := by
  have same : ∀ outcome : Except FlowError Bool,
      (do if ← outcome then .ok true else return false) = outcome := by
    rintro (_ | _ | _) <;> rfl
  cases connective with
  | and =>
      rw [verdict, ConditionChild.allTrue, ConditionChild.allTrue]
      exact same _
  | or =>
      rw [verdict, ConditionChild.anyTrue, ConditionChild.anyTrue]
      exact same _

namespace SoleLeaf

variable {leaf : ConditionChild} {c : Condition}

theorem verdict_eq (sole : c.SoleLeaf leaf) (env : Environment) (data : Bindings) :
    c.verdict env data = leaf.verdict env data := by
  induction sole with
  | alone connective => exact verdict_singleton env data connective leaf
  | inner connective _ ih => rw [verdict_singleton, ConditionChild.verdict, ih]

theorem chained_eq (sole : c.SoleLeaf leaf) : c.chained = leaf.chained := by
  induction sole with
  | alone => simp [chained, ConditionChild.chainedAll]
  | inner _ _ ih => simp [chained, ConditionChild.chainedAll, ConditionChild.chained, ih]

theorem operand (sole : c.SoleLeaf leaf) {v : Value} (operand : Operand v c) :
    ConditionChild.Operand v leaf := by
  induction sole with
  | alone =>
      obtain ⟨member, inner⟩ := operand
      obtain rfl := List.mem_singleton.mp member
      exact inner
  | inner _ _ ih =>
      obtain ⟨member, inner⟩ := operand
      obtain rfl := List.mem_singleton.mp member
      cases inner with
      | group within => exact ih within

theorem lower_eq (sole : c.SoleLeaf leaf) :
    ∃ wrap : Node → Node, c.lower = leaf.lower.map wrap ∧ ∀ node, (wrap node).TruthOf id node := by
  induction sole with
  | alone connective =>
      refine ⟨fun node => .logical connective [node], ?_, Node.TruthOf.singleton connective⟩
      rw [lower, ConditionChild.lowerAll, ConditionChild.lowerAll]
      cases leaf.lower <;> rfl
  | inner connective _ ih =>
      obtain ⟨wrap, compiles, same⟩ := ih
      refine ⟨fun node => .logical connective [wrap node], ?_,
        fun node => (Node.TruthOf.singleton connective (wrap node)).trans (same node)⟩
      rw [lower, ConditionChild.lowerAll, ConditionChild.lowerAll, ConditionChild.lower, compiles]
      cases leaf.lower <;> rfl

theorem validate_eq (sole : c.SoleLeaf leaf) (registry : Registry) :
    (c.validate registry).map (fun _ => ()) = leaf.accept registry := by
  obtain ⟨wrap, compiles, same⟩ := sole.lower_eq
  rw [validate, ConditionChild.accept, compiles]
  cases leaf.lower with
  | error reason => rfl
  | ok node =>
      simp only [map_ok, mapError_ok, ok_bind, (same node).check_eq]
      cases registry.check node <;> rfl

theorem result_eq (sole : c.SoleLeaf leaf) (env : Environment) (data : Bindings) :
    c.result env data =
      (data.bind leaf.chained).mapError .transform >>= fun bound => leaf.computed env bound := by
  obtain ⟨wrap, compiles, same⟩ := sole.lower_eq
  have truth : ∀ outcome : Except SandboxError Json,
      (do return (← outcome.mapError FlowError.sandbox).isTrue) =
        (outcome.map Json.isTrue).mapError FlowError.sandbox := by
    rintro (_ | _) <;> rfl
  rw [result, sole.chained_eq, compiles]
  cases data.bind leaf.chained with
  | error failure => rfl
  | ok bound =>
      rw [mapError_ok, ok_bind, ok_bind, ConditionChild.computed]
      cases leaf.lower with
      | error reason => rfl
      | ok node =>
          rw [map_ok, mapError_ok, mapError_ok, ok_bind, ok_bind, truth, (same node).execute_eq,
            Except.map_id, id_eq]

theorem accepted (sole : c.SoleLeaf leaf) {env : Environment} {node : Node}
    (lowered : leaf.lower = .ok node) (resolved : node.Resolved env.registry)
    (owned : ∀ v, ConditionChild.Operand v leaf → v.OwnsTokens) :
    (∃ program, c.validate env.registry = .ok program) ∧
      ∀ data bound : Bindings, data.bind leaf.chained = .ok bound →
        c.result env data = leaf.verdict env bound := by
  obtain ⟨wrap, compiles, same⟩ := sole.lower_eq
  rw [lowered, map_ok] at compiles
  have resolvedAll : (wrap node).Resolved env.registry := by
    rw [Node.resolved_iff_calls, (same node).calls, ← Node.resolved_iff_calls]
    exact resolved
  constructor
  · refine ⟨wrap node, ?_⟩
    rw [validate, compiles, mapError_ok, ok_bind, Registry.check_eq_ok.mpr resolvedAll]
    rfl
  · intro data bound extended
    have ownedAll : ∀ v, Operand v c → v.OwnsTokens := fun v inner => owned v (sole.operand inner)
    rw [← sole.chained_eq] at extended
    rw [result_of_lowered compiles resolvedAll ownedAll extended, sole.verdict_eq]

end SoleLeaf

end Condition

end FlowLogic
