import FlowLogic.Proofs.Condition.Operands
import FlowLogic.Proofs.Condition.Truth
import FlowLogic.Proofs.Definition.Lowering
import FlowLogic.Proofs.Definition.Reading

/-!
Programs of conditions give the truth of the conditions.  All chains are bound before the program
runs, so that a failing chain ends the evaluation wherever its field stands.
-/

namespace FlowLogic

open Outcome

variable {env : Environment} {data : Bindings}

theorem Value.computed_eq {v : Value} {node : Node} (lowered : v.lower = .ok node)
    (resolved : node.Resolved env.registry) :
    v.computed env data = (node.eval env data).mapError .ofRun := by
  simp only [computed, lowered, mapError_ok, ok_bind, Environment.execute_of_resolved data resolved]
  cases node.eval env data <;> rfl

theorem Value.computed_eq_ok {v : Value} {result : Json} :
    v.computed env data = .ok result ↔
      ∃ node, v.lower = .ok node ∧ node.Resolved env.registry ∧ node.eval env data = .ok result := by
  simp only [computed, bind_eq_ok, mapError_eq_ok, Environment.execute_eq_ok]

namespace Relation

variable {loose : Bool} {left right : Node}

theorem eval_node (asked : Relation) :
    (asked.node loose left right).eval env data = do
      let l ← left.eval env data
      let r ← right.eval env data
      return .bool (asked.holds loose l r) := by
  have compared (comparator : Comparator)
      (agrees : ∀ l r, comparator.test l r = asked.holds loose l r) :
      (Node.compare comparator left right).eval env data = do
        let l ← left.eval env data
        let r ← right.eval env data
        return .bool (asked.holds loose l r) := by
    simp only [Node.eval, agrees]
  cases asked with
  | equals | notEquals =>
      apply compared
      cases loose <;> intro l r <;> rfl
  | gt | lt | gte | lte =>
      apply compared
      intro l r
      simp only [Comparator.test, holds]
      cases l.order? r with
      | none => rfl
      | some order => cases order <;> rfl
  | contains => simp only [node, Node.eval, holds]
  | noContains =>
      simp only [node, Node.eval, holds]
      cases left.eval env data with
      | error fault => rfl
      | ok l => cases right.eval env data <;> rfl

theorem calls_node (asked : Relation) :
    (asked.node loose left right).calls = left.calls ++ right.calls := by
  cases asked <;> rfl

theorem resolved_node_iff {registry : Registry} {asked : Relation} :
    (asked.node loose left right).Resolved registry ↔
      left.Resolved registry ∧ right.Resolved registry := by
  simp only [Node.resolved_iff_calls, calls_node, List.forall_mem_append]

end Relation

inductive Node.IsConstant (value : Json) : Node → Prop
  | literal : IsConstant value (.literal value)
  | raw (code : String) : IsConstant value (.raw code value)

namespace Node.IsConstant

variable {value : Json} {node : Node}

theorem eval (constant : node.IsConstant value) (env : Environment) (data : Bindings) :
    node.eval env data = .ok value := by
  cases constant <;> rfl

theorem calls (constant : node.IsConstant value) : node.calls = [] := by
  cases constant <;> rfl

theorem lookups (constant : node.IsConstant value) : node.lookups = [] := by
  cases constant <;> simp

end Node.IsConstant

namespace Presence

theorem eval_node (asked : Presence) (inner : Node) :
    (asked.node inner).eval env data =
      (inner.eval env data).map fun value => .bool (asked.holds false value) := by
  cases asked <;> simp only [node, Node.eval] <;> cases inner.eval env data with
  | error fault => rfl
  | ok value => cases unset : value.isUnset <;> simp [holds, unset, Comparator.test] <;> rfl

theorem ofLiteral_eq (asked : Presence) (literal : Json) :
    asked.ofLiteral literal = asked.holds true literal := by
  cases asked <;> rfl

theorem calls_node (asked : Presence) (inner : Node) : (asked.node inner).calls = inner.calls := by
  cases asked with
  | empty | notEmpty => rfl
  | valuable | noValuable => exact List.append_nil _

theorem resolved_node_iff {registry : Registry} {asked : Presence} {inner : Node} :
    (asked.node inner).Resolved registry ↔ inner.Resolved registry := by
  simp only [Node.resolved_iff_calls, calls_node]

theorem lower_of_literalValue? {v : Value} {literal : Json}
    (found : literalValue? v = some literal) (owns : v.OwnsTokens) :
    ∃ node, v.lower = .ok node ∧ node.IsConstant literal := by
  obtain ⟨kind, e, dataType⟩ := v
  unfold literalValue? at found
  split at found
  next label alone =>
    obtain rfl := Expression.single?_eq_some.mp alone
    have origin : label.origin = kind := owns (.input label) (List.mem_singleton.mpr rfl)
    cases kind with
    | const =>
        simp only [inputValue?, origin, Option.some.injEq] at found
        subst found
        exact ⟨.literal (Value.literalValue label.text), rfl, .literal⟩
    | expression =>
        simp only [inputValue?, origin] at found
        split at found
        next code value lowered =>
          cases found
          refine ⟨.raw code literal, ?_, .raw code⟩
          simp only [Value.lower, Value.literalResult?, Value.literal?, Option.map_none,
            Expression.lower, Token.lowerAll, Token.lower, Label.lowerInput, origin, lowered]
          rfl
        next => cases found
  next => cases found

theorem computed_of_literalValue? {v : Value} {literal : Json}
    (found : literalValue? v = some literal) (owns : v.OwnsTokens) :
    v.computed env data = .ok literal := by
  obtain ⟨node, lowered, constant⟩ := lower_of_literalValue? found owns
  have resolved : node.Resolved env.registry := by
    rw [Node.resolved_iff_calls, constant.calls]
    simp
  rw [Value.computed_eq lowered resolved, constant.eval, mapError_ok]

end Presence

mutual

theorem Condition.eval_lower (c : Condition) {node : Node} (lowered : c.lower = .ok node)
    (resolved : node.Resolved env.registry)
    (owned : ∀ v, Condition.Operand v c → v.OwnsTokens) :
    ((node.eval env data).mapError .ofRun).map Json.isTrue = c.verdict env data := by
  cases c with
  | mk connective children =>
      simp only [Condition.lower] at lowered
      obtain ⟨nodes, loweredChildren, rfl⟩ := map_eq_ok.mp lowered
      have resolvedAll : ∀ node ∈ nodes, node.Resolved env.registry :=
        fun _ member => resolved.child member
      have ownedAll : ∀ child ∈ children, ∀ v, ConditionChild.Operand v child → v.OwnsTokens :=
        fun _ member v operand => owned v (.child member operand)
      cases connective with
      | and =>
          rw [Condition.verdict,
            ← ConditionChild.allTrue_lower children loweredChildren resolvedAll ownedAll, Node.eval]
          cases Node.evalLogical env data .and nodes <;> rfl
      | or =>
          rw [Condition.verdict,
            ← ConditionChild.anyTrue_lower children loweredChildren resolvedAll ownedAll, Node.eval]
          cases Node.evalLogical env data .or nodes <;> rfl

theorem ConditionChild.eval_lower (child : ConditionChild) {node : Node}
    (lowered : child.lower = .ok node) (resolved : node.Resolved env.registry)
    (owned : ∀ v, ConditionChild.Operand v child → v.OwnsTokens) :
    ((node.eval env data).mapError .ofRun).map Json.isTrue = child.verdict env data := by
  cases child with
  | group c =>
      simp only [ConditionChild.lower] at lowered
      rw [ConditionChild.verdict]
      exact Condition.eval_lower c lowered resolved fun v operand => owned v (.group operand)
  | truth value =>
      simp only [ConditionChild.lower] at lowered
      obtain ⟨inner, loweredValue, rfl⟩ := map_eq_ok.mp lowered
      have resolvedInner := resolved.child (List.mem_singleton.mpr rfl)
      rw [ConditionChild.verdict, Value.computed_eq loweredValue resolvedInner, Node.eval]
      cases inner.eval env data <;> rfl
  | relation asked left right =>
      obtain ⟨l, r, loweredLeft, loweredRight, rfl⟩ := ConditionChild.relation_of_lower lowered
      obtain ⟨resolvedLeft, resolvedRight⟩ :=
        Relation.resolved_node_iff.mp (resolved.child (List.mem_singleton.mpr rfl))
      rw [ConditionChild.verdict, Value.computed_eq loweredLeft resolvedLeft,
        Value.computed_eq loweredRight resolvedRight, Node.eval, Relation.eval_node]
      cases l.eval env data with
      | error fault => rfl
      | ok leftResult => cases r.eval env data <;> rfl
  | presence asked value =>
      simp only [ConditionChild.lower, Presence.lower] at lowered
      obtain ⟨inner, loweredPresence, rfl⟩ := map_eq_ok.mp lowered
      rw [ConditionChild.verdict]
      cases found : Presence.literalValue? value with
      | some literal =>
          simp only [found] at loweredPresence
          cases loweredPresence
          rw [Presence.computed_of_literalValue? found (owned value (.presence asked))]
          simp [Node.eval, Json.isTrue, Presence.ofLiteral_eq]
      | none =>
          simp only [found] at loweredPresence
          obtain ⟨operand, loweredValue, rfl⟩ := map_eq_ok.mp loweredPresence
          have resolvedOperand :=
            Presence.resolved_node_iff.mp (resolved.child (List.mem_singleton.mpr rfl))
          rw [Value.computed_eq loweredValue resolvedOperand, Node.eval, Presence.eval_node]
          cases operand.eval env data <;> rfl

theorem ConditionChild.allTrue_lower (children : List ConditionChild) {nodes : List Node}
    (lowered : ConditionChild.lowerAll children = .ok nodes)
    (resolved : ∀ node ∈ nodes, node.Resolved env.registry)
    (owned : ∀ child ∈ children, ∀ v, ConditionChild.Operand v child → v.OwnsTokens) :
    (Node.evalLogical env data .and nodes).mapError .ofRun =
      ConditionChild.allTrue env data children := by
  cases children with
  | nil =>
      cases lowered
      rfl
  | cons child rest =>
      simp only [ConditionChild.lowerAll, bind_eq_ok] at lowered
      obtain ⟨node, loweredChild, others, loweredRest, returned⟩ := lowered
      cases returned
      rw [List.forall_mem_cons] at resolved owned
      rw [ConditionChild.allTrue,
        ← ConditionChild.eval_lower child loweredChild resolved.1 owned.1,
        ← ConditionChild.allTrue_lower rest loweredRest resolved.2 owned.2, Node.evalLogical]
      cases node.eval env data with
      | error fault => rfl
      | ok value => cases truth : value.isTrue <;> simp [truth, Connective.unit]

theorem ConditionChild.anyTrue_lower (children : List ConditionChild) {nodes : List Node}
    (lowered : ConditionChild.lowerAll children = .ok nodes)
    (resolved : ∀ node ∈ nodes, node.Resolved env.registry)
    (owned : ∀ child ∈ children, ∀ v, ConditionChild.Operand v child → v.OwnsTokens) :
    (Node.evalLogical env data .or nodes).mapError .ofRun =
      ConditionChild.anyTrue env data children := by
  cases children with
  | nil =>
      cases lowered
      rfl
  | cons child rest =>
      simp only [ConditionChild.lowerAll, bind_eq_ok] at lowered
      obtain ⟨node, loweredChild, others, loweredRest, returned⟩ := lowered
      cases returned
      rw [List.forall_mem_cons] at resolved owned
      rw [ConditionChild.anyTrue,
        ← ConditionChild.eval_lower child loweredChild resolved.1 owned.1,
        ← ConditionChild.anyTrue_lower rest loweredRest resolved.2 owned.2, Node.evalLogical]
      cases node.eval env data with
      | error fault => rfl
      | ok value => cases truth : value.isTrue <;> simp [truth, Connective.unit]

end

end FlowLogic
