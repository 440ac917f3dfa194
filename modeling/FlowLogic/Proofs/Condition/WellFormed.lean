import FlowLogic.Proofs.Condition.Result
import FlowLogic.Proofs.Definition.WellFormed

/-!
Well-formed conditions.  Every group of a condition that was read has a child, every comparison has
the operands that its operator asks for, and the values at the leaves are well formed throughout.
-/

namespace FlowLogic

inductive Condition.StandsIn (inner : Condition) : Condition → Prop
  | self : StandsIn inner inner
  | group {outer c : Condition} (member : .group c ∈ outer.children)
      (within : StandsIn inner c) : StandsIn inner outer

namespace ConditionChild

def operator? : ConditionChild → Option Operator
  | .relation asked _ _ => some (.relation asked)
  | .presence asked _ => some (.presence asked)
  | .group _ | .truth _ => none

def right? : ConditionChild → Option Value
  | .relation _ _ right => some right
  | .group _ | .truth _ | .presence _ _ => none

def operands : ConditionChild → List Value
  | .group _ => []
  | .truth v | .presence _ v => [v]
  | .relation _ left right => [left, right]

end ConditionChild

structure Condition.WellFormed (c : Condition) : Prop where
  filled : c.children ≠ []
  comparisons : ∀ child ∈ c.children, ∀ operator, child.operator? = some operator →
    child.right?.isSome = operator.needsRight
  operands : ∀ child ∈ c.children, ∀ v ∈ child.operands, ∀ w : Value, w.StandsIn v → w.WellFormed

theorem ConditionChild.IsRead.operands {child : ConditionChild} (read : child.IsRead) :
    ∀ v ∈ child.operands, v.IsRead := by
  cases read with
  | group => simp [ConditionChild.operands]
  | truth read | presence asked read => simpa [ConditionChild.operands] using read
  | relation asked readLeft readRight =>
      simpa [ConditionChild.operands] using ⟨readLeft, readRight⟩

theorem ConditionChild.right?_isSome {child : ConditionChild} {operator : Operator}
    (asked : child.operator? = some operator) : child.right?.isSome = operator.needsRight := by
  cases child with
  | group | truth => cases asked
  | relation | presence =>
      cases asked
      rfl

theorem Condition.IsRead.wellFormed {c : Condition} (read : c.IsRead) : c.WellFormed := by
  obtain ⟨filled, children⟩ := read.children
  refine ⟨filled, ?_, ?_⟩
  · intro child _ operator asked
    exact ConditionChild.right?_isSome asked
  · intro child member v operand w stands
    have readOperand : v.IsRead := (children child member).operands v operand
    exact (stands.isRead readOperand).wellFormed

theorem Condition.StandsIn.isRead {inner outer : Condition} (stands : inner.StandsIn outer)
    (read : outer.IsRead) : inner.IsRead := by
  induction stands with
  | self => exact read
  | group member _ ih =>
      apply ih
      cases read.children.2 _ member with
      | group readGroup => exact readGroup

/-- All values and all groups of a definition that was read are well formed. -/
theorem wellFormed_of_read (document : Json) :
    (∀ v, Value.read document = .ok (some v) → ∀ w : Value, w.StandsIn v → w.WellFormed) ∧
      ∀ registry c, Condition.readChecked registry document = .ok (some c) →
        ∀ group : Condition, group.StandsIn c → group.WellFormed := by
  constructor
  · intro v read w stands
    have readValue : v.IsRead := ⟨[], document, read⟩
    exact (stands.isRead readValue).wellFormed
  · intro registry c accepted group stands
    have readCondition : c.IsRead := ⟨[], document, (Condition.readChecked_eq_some accepted).1⟩
    exact (stands.isRead readCondition).wellFormed

theorem wellFormed_of_read_of_nested :
    ∃ (document described : Json) (v argument : Value) (c group : Condition),
      Value.read document = .ok (some v) ∧ argument.StandsIn v ∧ argument.WellFormed ∧
        Condition.readChecked .empty described = .ok (some c) ∧ group.StandsIn c ∧
        group.WellFormed := by
  let document : Json := .obj [("expression_value", .arr [.obj [
    ("args", .arr [.obj [("const_value", .arr [
      .obj [("type", .str "input"), ("value", .str "a")]])]]),
    ("name", .str "upper"), ("type", .str "method")]])]
  let described : Json := .obj [("children", .arr [.obj [
    ("children", .arr [.obj [("condition", .str "empty"), ("left_operands", .obj [
      ("expression_value", .arr [.obj [("type", .str "field"), ("value", .str "a")]])])]]),
    ("ops", .str "or")]])]
  let argument : Value := ⟨.const, ⟨[.input (.ofText .const "a")], false⟩, none⟩
  let call : Token := .call ⟨"", "upper", .expression, none, none⟩ [argument]
  let v : Value := ⟨.expression, ⟨[call], false⟩, none⟩
  let group : Condition :=
    ⟨.or, [.presence .empty ⟨.expression, ⟨[.field (.ofText .expression "a")], false⟩, none⟩]⟩
  let c : Condition := ⟨.and, [.group group]⟩
  have read : Value.read document = .ok (some v) := rfl
  have accepted : Condition.readChecked .empty described = .ok (some c) := rfl
  have inCall : argument ∈ call.values := List.mem_singleton.mpr rfl
  have stands : argument.StandsIn v := .token (List.mem_singleton.mpr rfl) inCall .self
  have standsInCondition : group.StandsIn c := .group (List.mem_singleton.mpr rfl) .self
  exact ⟨document, described, v, argument, c, group, read, stands,
    (wellFormed_of_read document).1 v read argument stands, accepted, standsInCondition,
    (wellFormed_of_read described).2 .empty c accepted group standsInCondition⟩

end FlowLogic
