import FlowLogic.Proofs.Condition.SoleLeaf

/-!
Operators with a complement.  The leaves of an operator and of its complement compile alike or are
refused alike, to a constant where the operand is a literal too, and one is true where the other is
false.
-/

namespace FlowLogic

open Outcome

/-- Both are refused for one reason, or the programs make the same calls and give opposite truths. -/
inductive OppositePrograms : Except CompileError Node → Except CompileError Node → Prop
  | refused (reason : CompileError) : OppositePrograms (.error reason) (.error reason)
  | compiled {program node : Node} (negates : program.TruthOf not node) :
      OppositePrograms (.ok program) (.ok node)

theorem OppositePrograms.paren {outcome other : Except CompileError Node}
    (opposite : OppositePrograms outcome other) :
    OppositePrograms (outcome.map .paren) (other.map .paren) := by
  cases opposite with
  | refused reason => exact .refused reason
  | compiled negates => exact .compiled negates.paren

namespace Relation

/-- The relation that holds where this one does not; values without an order are in none of the
orders, so these have no complement. -/
def complement? : Relation → Option Relation
  | .equals => some .notEquals
  | .notEquals => some .equals
  | .contains => some .noContains
  | .noContains => some .contains
  | .gt | .lt | .gte | .lte => none

theorem holds_complement {asked other : Relation} (paired : asked.complement? = some other)
    (loose : Bool) (left right : Json) :
    other.holds loose left right = !asked.holds loose left right := by
  cases asked <;> cases paired <;> simp [holds]

theorem node_complement {asked other : Relation} (paired : asked.complement? = some other)
    (loose : Bool) (left right : Node) :
    (other.node loose left right).TruthOf not (asked.node loose left right) := by
  constructor
  · rw [calls_node, calls_node]
  · intro env data
    simp only [eval_node, holds_complement paired]
    cases left.eval env data with
    | error fault => rfl
    | ok l => cases right.eval env data <;> rfl

theorem lower_complement {asked other : Relation} (paired : asked.complement? = some other)
    (left right : Value) : OppositePrograms (other.lower left right) (asked.lower left right) := by
  unfold lower
  cases left.lower with
  | error reason => exact .refused reason
  | ok l =>
      cases right.lower with
      | error reason => exact .refused reason
      | ok r => exact .compiled (node_complement paired _ l r)

end Relation

namespace Presence

def complement : Presence → Presence
  | .empty => .notEmpty
  | .notEmpty => .empty
  | .valuable => .noValuable
  | .noValuable => .valuable

theorem holds_complement (asked : Presence) (literal : Bool) (value : Json) :
    asked.complement.holds literal value = !asked.holds literal value := by
  cases asked <;> cases literal <;> simp [complement, holds]

theorem node_complement (asked : Presence) (inner : Node) :
    (asked.complement.node inner).TruthOf not (asked.node inner) := by
  constructor
  · rw [calls_node, calls_node]
  · intro env data
    simp only [eval_node, holds_complement]
    cases inner.eval env data <;> rfl

theorem ofLiteral_complement (asked : Presence) (literal : Json) :
    asked.complement.ofLiteral literal = !asked.ofLiteral literal := by
  rw [ofLiteral_eq, ofLiteral_eq, holds_complement]

theorem lower_complement (asked : Presence) (v : Value) :
    OppositePrograms (asked.complement.lower v) (asked.lower v) := by
  unfold lower
  cases literalValue? v with
  | some literal =>
      apply OppositePrograms.compiled
      refine ⟨rfl, fun env data => ?_⟩
      rw [ofLiteral_complement]
      rfl
  | none =>
      cases v.lower with
      | error reason => exact .refused reason
      | ok inner => exact .compiled (asked.node_complement inner)

end Presence

def Operator.complement? : Operator → Option Operator
  | .relation asked => asked.complement?.map .relation
  | .presence asked => some (.presence asked.complement)

structure ConditionChild.Opposes (other leaf : ConditionChild) : Prop where
  chained : other.chained = leaf.chained
  lower : OppositePrograms other.lower leaf.lower

namespace ConditionChild.Opposes

variable {leaf other : ConditionChild}

theorem accept_eq (opposes : other.Opposes leaf) (registry : Registry) :
    other.accept registry = leaf.accept registry := by
  have lower := opposes.lower
  unfold accept
  generalize other.lower = outcome, leaf.lower = given at lower ⊢
  cases lower with
  | refused reason => rfl
  | compiled negates => simp only [mapError_ok, ok_bind, negates.check_eq]

theorem computed_eq (opposes : other.Opposes leaf) (env : Environment) (data : Bindings) :
    other.computed env data = (leaf.computed env data).map not := by
  have lower := opposes.lower
  unfold computed
  generalize other.lower = outcome, leaf.lower = given at lower ⊢
  cases lower with
  | refused reason => rfl
  | @compiled program node negates =>
      rw [mapError_ok, mapError_ok, ok_bind, ok_bind, negates.execute_eq]
      cases env.execute node data <;> rfl

theorem exists_compare {asked complement : Operator} (paired : asked.complement? = some complement)
    {left : Value} {right : Option Value} (built : compare asked left right = .ok leaf) :
    ∃ other, compare complement left right = .ok other ∧ other.Opposes leaf := by
  cases asked with
  | relation asked =>
      obtain ⟨other, pairedRelation, rfl⟩ := Option.map_eq_some_iff.mp paired
      cases right with
      | none => cases built
      | some right =>
          cases built
          exact ⟨_, rfl, rfl, (Relation.lower_complement pairedRelation left right).paren⟩
  | presence asked =>
      cases paired
      cases built
      exact ⟨_, rfl, rfl, (asked.lower_complement left).paren⟩

end ConditionChild.Opposes

namespace Condition

/-- The leaf of an operator that has a complement is accepted where the leaf of the complement is,
and refused for the same reason; on all bindings they give opposite results or fail alike. -/
theorem complement_negates {asked complement : Operator}
    (paired : asked.complement? = some complement) {left : Value} {right : Option Value}
    {leaf : ConditionChild} (built : ConditionChild.compare asked left right = .ok leaf) :
    ∃ other, ConditionChild.compare complement left right = .ok other ∧
      ∀ c negated : Condition, c.SoleLeaf leaf → negated.SoleLeaf other →
        (∀ registry, (negated.validate registry).map (fun _ => ()) =
          (c.validate registry).map fun _ => ()) ∧
        ∀ env data, negated.result env data = (c.result env data).map not := by
  obtain ⟨other, builtOther, opposes⟩ := ConditionChild.Opposes.exists_compare paired built
  refine ⟨other, builtOther, ?_⟩
  intro c negated sole soleOther
  constructor
  · intro registry
    rw [soleOther.validate_eq, sole.validate_eq, opposes.accept_eq]
  · intro env data
    rw [soleOther.result_eq, sole.result_eq, opposes.chained]
    cases data.bind leaf.chained with
    | error failure => rfl
    | ok bound => exact opposes.computed_eq env bound

theorem complement_negates_of_zero :
    ∃ (env : Environment) (data : Bindings) (count zero : Value),
      (Presence.literalValue? zero).isSome ∧ Presence.literalValue? count = none ∧
        result env data ⟨.and, [.relation .equals count zero]⟩ = .ok true ∧
        result env data ⟨.or, [.group ⟨.and, [.relation .notEquals count zero]⟩]⟩ = .ok false ∧
        result env data ⟨.and, [.presence .notEmpty zero]⟩ = .ok false ∧
        result env data ⟨.and, [.presence .empty zero]⟩ = .ok true := by
  let env : Environment := ⟨.empty, 0⟩
  let data : Bindings := [("count", .str "0.0")]
  let count : Value := .ofField "count"
  let zero : Value := ⟨.const, ⟨[.input (.ofText .const "0")], false⟩, none⟩
  have pairedEquals : (Operator.relation .equals).complement? = some (.relation .notEquals) := rfl
  have pairedFilled : (Operator.presence .notEmpty).complement? = some (.presence .empty) := rfl
  have builtEquals : ConditionChild.compare (.relation .equals) count (some zero) =
      .ok (.relation .equals count zero) := rfl
  have builtFilled : ConditionChild.compare (.presence .notEmpty) zero none =
      .ok (.presence .notEmpty zero) := rfl
  obtain ⟨_, builtUnequal, unequal⟩ := complement_negates pairedEquals builtEquals
  obtain ⟨_, builtEmpty, empty⟩ := complement_negates pairedFilled builtFilled
  cases builtUnequal
  cases builtEmpty
  have equals : result env data ⟨.and, [.relation .equals count zero]⟩ = .ok true := by
    decide +kernel
  have filled : result env data ⟨.and, [.presence .notEmpty zero]⟩ = .ok false := by
    decide +kernel
  refine ⟨env, data, count, zero, rfl, rfl, equals, ?_, filled, ?_⟩
  · rw [(unequal _ _ (.alone .and) (.inner .or (.alone .and))).2 env data, equals]
    rfl
  · rw [(empty _ _ (.alone .and) (.alone .and)).2 env data, filled]
    rfl

end Condition

end FlowLogic
