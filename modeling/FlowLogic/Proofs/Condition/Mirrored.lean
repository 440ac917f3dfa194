import FlowLogic.Proofs.Condition.SoleLeaf
import FlowLogic.Proofs.Definition.BindingOrder
import FlowLogic.Proofs.Json.Order
import FlowLogic.Proofs.Program.Agreement

/-!
Relations with their operands exchanged.  A relation is mirrored by the one that asks the same the
other way round, and a leaf by the leaf of the mirrored relation.  On the same bindings the two
agree.  The chains of the operands are bound in the order of the operands, though, so whole results
agree if that order does not matter.
-/

namespace FlowLogic

open Outcome

variable {env : Environment} {data given : Bindings}

namespace Relation

/-- The relation that asks the same of the exchanged operands; of what holds a value there is
none. -/
def mirror? : Relation → Option Relation
  | .equals => some .equals
  | .notEquals => some .notEquals
  | .gt => some .lt
  | .lt => some .gt
  | .gte => some .lte
  | .lte => some .gte
  | .contains | .noContains => none

variable {asked mirrored : Relation}

theorem holds_mirror (paired : asked.mirror? = some mirrored) (loose : Bool) (left right : Json) :
    mirrored.holds loose right left = asked.holds loose left right := by
  have turned (p q : Ordering → Bool) (agrees : ∀ order, p order.swap = q order) :
      (right.order? left).any p = (left.order? right).any q := by
    rw [Json.order?_swap left right]
    cases left.order? right with
    | none => rfl
    | some order => exact agrees order
  cases asked with
  | equals | notEquals =>
      cases paired
      simp only [holds, Json.looseEq_comm right, Json.strictEq_comm right]
  | gt | lt | gte | lte =>
      cases paired
      exact turned _ _ (by rintro (_ | _ | _) <;> rfl)
  | contains | noContains => cases paired

/-- Both operands have results on bindings as they stand, and the relation of these is as given. -/
def Settles (asked : Relation) (left right : Value) (env : Environment) (data : Bindings)
    (truth : Bool) : Prop :=
  ∃ l r, left.computed env data = .ok l ∧ right.computed env data = .ok r ∧
    asked.holds (left.isNumericLiteral || right.isNumericLiteral) l r = truth

theorem settles_mirror (paired : asked.mirror? = some mirrored) {left right : Value}
    {truth : Bool} :
    mirrored.Settles right left env data truth ↔ asked.Settles left right env data truth := by
  unfold Settles
  rw [Bool.or_comm]
  constructor
  · rintro ⟨r, l, hasRight, hasLeft, holds⟩
    exact ⟨l, r, hasLeft, hasRight, by rw [← holds, holds_mirror paired]⟩
  · rintro ⟨l, r, hasLeft, hasRight, holds⟩
    exact ⟨r, l, hasRight, hasLeft, by rw [← holds, holds_mirror paired]⟩

end Relation

namespace ConditionChild

theorem relation_computed_eq_ok {asked : Relation} {left right : Value} {truth : Bool} :
    (relation asked left right).computed env data = .ok truth ↔
      asked.Settles left right env data truth := by
  simp only [computed_eq_ok, Relation.Settles, Value.computed_eq_ok]
  constructor
  · rintro ⟨node, value, lowered, resolved, evaluated, rfl⟩
    obtain ⟨l, r, loweredLeft, loweredRight, rfl⟩ := relation_of_lower lowered
    obtain ⟨resolvedLeft, resolvedRight⟩ :=
      Relation.resolved_node_iff.mp (resolved.child (List.mem_singleton.mpr rfl))
    rw [Node.eval, Relation.eval_node] at evaluated
    obtain ⟨x, evaluatedLeft, evaluated⟩ := bind_eq_ok.mp evaluated
    obtain ⟨y, evaluatedRight, returned⟩ := bind_eq_ok.mp evaluated
    cases returned
    exact ⟨x, y, ⟨l, loweredLeft, resolvedLeft, evaluatedLeft⟩,
      ⟨r, loweredRight, resolvedRight, evaluatedRight⟩, rfl⟩
  · rintro ⟨x, y, ⟨l, loweredLeft, resolvedLeft, evaluatedLeft⟩,
      ⟨r, loweredRight, resolvedRight, evaluatedRight⟩, holds⟩
    have lowered : (relation asked left right).lower =
        .ok (.paren (asked.node (left.isNumericLiteral || right.isNumericLiteral) l r)) := by
      simp only [lower, Relation.lower, loweredLeft, loweredRight]
      rfl
    refine ⟨_, .bool _, lowered, ?_, ?_, holds⟩
    · rw [Node.resolved_iff_calls, Node.calls, ← Node.resolved_iff_calls,
        Relation.resolved_node_iff]
      exact ⟨resolvedLeft, resolvedRight⟩
    · rw [Node.eval, Relation.eval_node, evaluatedLeft, evaluatedRight]
      rfl

theorem computed_agree (alike : ∀ path, data.lookup? path = given.lookup? path)
    (env : Environment) (child : ConditionChild) :
    child.computed env data = child.computed env given := by
  have same (program : Node) : env.execute program data = env.execute program given :=
    env.execute_agree fun path _ => alike path
  simp only [computed, same]

end ConditionChild

namespace Condition

variable {asked mirrored : Relation}

theorem SoleLeaf.result_eq_ok {left right : Value} {c : Condition}
    (sole : c.SoleLeaf (.relation asked left right)) {truth : Bool} :
    c.result env data = .ok truth ↔
      ∃ bound, data.bind (left.chained ++ right.chained) = .ok bound ∧
        asked.Settles left right env bound truth := by
  simp only [sole.result_eq, bind_eq_ok, mapError_eq_ok, ConditionChild.relation_computed_eq_ok]
  rfl

theorem SoleLeaf.result_mirror (paired : asked.mirror? = some mirrored) {left right : Value}
    (agree : Bindings.KeysAgree left.chained right.chained) {c turned : Condition}
    (sole : c.SoleLeaf (.relation asked left right))
    (soleTurned : turned.SoleLeaf (.relation mirrored right left)) {truth : Bool} :
    turned.result env data = .ok truth ↔ c.result env data = .ok truth := by
  have same (bound : Bindings) :
      (ConditionChild.relation mirrored right left).computed env bound = .ok truth ↔
        (ConditionChild.relation asked left right).computed env bound = .ok truth := by
    rw [ConditionChild.relation_computed_eq_ok, ConditionChild.relation_computed_eq_ok,
      Relation.settles_mirror paired]
  rw [soleTurned.result_eq, sole.result_eq, ConditionChild.chained, ConditionChild.chained]
  obtain ⟨_, _, failed, failedTurned⟩ | ⟨bound, given, binds, bindsTurned, alike⟩ :=
    Bindings.bind_swap agree data
  · rw [failed, failedTurned]
    exact iff_of_false nofun nofun
  · rw [binds, bindsTurned, mapError_ok, mapError_ok, ok_bind, ok_bind,
      ← ConditionChild.computed_agree alike, same]

/-- On bindings as they stand a leaf and its mirror image give the relation of the results of the
operands, or fail both where one of these has none.  With the chains bound first this is so if the
fields of the operands share no key but with one path and one chain, which is so at any rate if no
component has a point in its name. -/
theorem mirror_agrees (paired : asked.mirror? = some mirrored) (left right : Value) :
    (∀ env data truth,
      ((ConditionChild.relation asked left right).computed env data = .ok truth ↔
        asked.Settles left right env data truth) ∧
      ((ConditionChild.relation mirrored right left).computed env data = .ok truth ↔
        asked.Settles left right env data truth)) ∧
    (Bindings.KeysAgree left.chained right.chained →
      ∀ c turned : Condition, c.SoleLeaf (.relation asked left right) →
        turned.SoleLeaf (.relation mirrored right left) →
          ∀ env data truth,
            (c.result env data = .ok truth ↔
              ∃ bound, data.bind (left.chained ++ right.chained) = .ok bound ∧
                asked.Settles left right env bound truth) ∧
            (turned.result env data = .ok truth ↔
              ∃ bound, data.bind (left.chained ++ right.chained) = .ok bound ∧
                asked.Settles left right env bound truth)) ∧
    ((∀ token ∈ left.chained ++ right.chained, token.label.PointFree) →
      (∀ token ∈ left.chained, ∀ other ∈ right.chained, ∀ chain third,
        token.label.chain = some chain → other.label.chain = some third →
          Text.Digest.hex chain = Text.Digest.hex third → chain = third) →
      Bindings.KeysAgree left.chained right.chained) := by
  refine ⟨?_, ?_, Bindings.keysAgree_of_pointFree⟩
  · intro env data truth
    exact ⟨ConditionChild.relation_computed_eq_ok,
      ConditionChild.relation_computed_eq_ok.trans (Relation.settles_mirror paired)⟩
  · intro agree c turned sole soleTurned env data truth
    exact ⟨sole.result_eq_ok,
      (sole.result_mirror paired agree soleTurned).trans sole.result_eq_ok⟩

theorem mirror_agrees_of_counts :
    ∃ (env : Environment) (data : Bindings) (left right : Value),
      Bindings.KeysAgree left.chained right.chained ∧ right.chained ≠ [] ∧
        result env data ⟨.and, [.relation .gte left right]⟩ = .ok true ∧
        result env data ⟨.or, [.group ⟨.and, [.relation .lte right left]⟩]⟩ = .ok true := by
  let env : Environment := ⟨.empty, 0⟩
  let data : Bindings := [("a", .obj [("b", .arr [.null, .null])]), ("ids", .arr [.null])]
  let left : Value := ⟨.expression,
    ⟨[.field ⟨"b", "", .expression, some "count()", some "a"⟩,
      .input (.ofText .expression "'0'")], false⟩, none⟩
  let right : Value :=
    ⟨.expression, ⟨[.field ⟨"ids", "", .expression, some "count()", none⟩], false⟩, none⟩
  have paired : Relation.mirror? .gte = some .lte := rfl
  obtain ⟨_, results, agrees⟩ := mirror_agrees paired left right
  have fields : left.chained = [.field ⟨"b", "", .expression, some "count()", some "a"⟩] := rfl
  have fieldsRight : right.chained = [.field ⟨"ids", "", .expression, some "count()", none⟩] := rfl
  have agree : Bindings.KeysAgree left.chained right.chained := by
    apply agrees
    · rw [fields, fieldsRight]
      simp [Token.label, Label.PointFree]
    · rw [fields, fieldsRight]
      simp [Token.label]
  have atLeast : result env data ⟨.and, [.relation .gte left right]⟩ = .ok true := by
    decide +kernel
  obtain ⟨settles, settlesTurned⟩ :=
    results agree _ _ (.alone .and) (.inner .or (.alone .and)) env data true
  exact ⟨env, data, left, right, agree, by simp [fieldsRight], atLeast,
    settlesTurned.mpr (settles.mp atLeast)⟩

/-- A component with a point in its name can give fields of both operands one key, which the operand
that comes second wins. -/
theorem mirror_lost_to_shared_key :
    ∃ (env : Environment) (data : Bindings) (left right : Value),
      result env data ⟨.and, [.relation .gt left right]⟩ = .ok true ∧
        result env data ⟨.and, [.relation .lt right left]⟩ = .ok false := by
  refine ⟨⟨.empty, 0⟩,
    [("a", .obj [("b", .obj [("c", .arr [.null])])]), ("a.b", .obj [("c", .arr [])])],
    ⟨.expression, ⟨[.field ⟨"c", "", .expression, some "count()", some "a.b"⟩,
      .input (.ofText .expression "'0'")], false⟩, none⟩,
    ⟨.expression, ⟨[.field ⟨"a.b.c", "", .expression, some "count()", none⟩], false⟩, none⟩, ?_, ?_⟩
  · decide +kernel
  · decide +kernel

end Condition

end FlowLogic
