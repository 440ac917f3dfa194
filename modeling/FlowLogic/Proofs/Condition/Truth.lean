import FlowLogic.Evaluation.Basic
import FlowLogic.Proofs.Outcome

/-!
The truth of conditions, read off the tree.  A group is evaluated from left to right and stops at
the first child that settles it; a leaf asks about the results of the programs of its operands.
-/

namespace FlowLogic

open Outcome

/-- Equality is loose where an operand is a numeral, and values that have no order are in none. -/
def Relation.holds (asked : Relation) (loose : Bool) (left right : Json) : Bool :=
  match asked with
  | .equals => if loose then left.looseEq right else left.strictEq right
  | .notEquals => !(if loose then left.looseEq right else left.strictEq right)
  | .contains => left.holds right
  | .noContains => !left.holds right
  | .gt => (left.order? right).any Ordering.isGT
  | .lt => (left.order? right).any Ordering.isLT
  | .gte => (left.order? right).any Ordering.isGE
  | .lte => (left.order? right).any Ordering.isLE

/-- Of a literal the text decides; of any other result `empty` asks whether it is unset, and
`valuable` whether it is unset or equal to the empty text. -/
def Presence.holds (asked : Presence) (literal : Bool) (value : Json) : Bool :=
  match asked, literal with
  | .empty, true | .valuable, true => isEmptyLiteral value
  | .notEmpty, true | .noValuable, true => !isEmptyLiteral value
  | .empty, false => value.isUnset
  | .notEmpty, false => !value.isUnset
  | .valuable, false => value.isUnset || value.looseEq (.str "")
  | .noValuable, false => !(value.isUnset || value.looseEq (.str ""))

section

variable (env : Environment) (data : Bindings)

/-- The result that the program of a value gives; the declared type has no part in it. -/
def Value.computed (v : Value) : Except FlowError Json := do
  let program ← v.lower.mapError .compile
  (env.execute program data).mapError .sandbox

mutual

def Condition.verdict : Condition → Except FlowError Bool
  | ⟨.and, children⟩ => ConditionChild.allTrue children
  | ⟨.or, children⟩ => ConditionChild.anyTrue children

def ConditionChild.verdict : ConditionChild → Except FlowError Bool
  | .group condition => condition.verdict
  | .truth value => do return (← value.computed env data).isTrue
  | .relation asked left right => do
    let l ← left.computed env data
    let r ← right.computed env data
    return asked.holds (left.isNumericLiteral || right.isNumericLiteral) l r
  | .presence asked value => do
    return asked.holds (Presence.literalValue? value).isSome (← value.computed env data)

def ConditionChild.allTrue : List ConditionChild → Except FlowError Bool
  | [] => .ok true
  | child :: rest => do if ← child.verdict then ConditionChild.allTrue rest else return false

def ConditionChild.anyTrue : List ConditionChild → Except FlowError Bool
  | [] => .ok false
  | child :: rest => do if ← child.verdict then return true else ConditionChild.anyTrue rest

end

def ConditionChild.IsLeaf : ConditionChild → Prop
  | .group _ => False
  | _ => True

/-- Nothing before the child settles its group, nor a group around it. -/
inductive Condition.Reaches (child : ConditionChild) : Condition → Prop
  | direct {connective : Connective} {before after : List ConditionChild}
      (passed : ∀ earlier ∈ before, earlier.verdict env data = .ok connective.unit) :
      Reaches child ⟨connective, before ++ child :: after⟩
  | inner {connective : Connective} {before after : List ConditionChild} {group : Condition}
      (passed : ∀ earlier ∈ before, earlier.verdict env data = .ok connective.unit)
      (reaches : Reaches child group) : Reaches child ⟨connective, before ++ .group group :: after⟩

end

variable {env : Environment} {data : Bindings}

namespace Condition

theorem verdict_of_passed {connective : Connective} {before rest : List ConditionChild}
    (passed : ∀ earlier ∈ before, earlier.verdict env data = .ok connective.unit) :
    verdict env data ⟨connective, before ++ rest⟩ = verdict env data ⟨connective, rest⟩ := by
  induction before with
  | nil => rfl
  | cons first others ih =>
      rw [List.forall_mem_cons] at passed
      rw [← ih passed.2]
      cases connective with
      | and => simp [verdict, ConditionChild.allTrue, passed.1, Connective.unit]
      | or => simp [verdict, ConditionChild.anyTrue, passed.1, Connective.unit]

theorem verdict_of_first_error {connective : Connective} {child : ConditionChild}
    {rest : List ConditionChild} {e : FlowError} (failed : child.verdict env data = .error e) :
    verdict env data ⟨connective, child :: rest⟩ = .error e := by
  cases connective with
  | and => simp [verdict, ConditionChild.allTrue, failed]
  | or => simp [verdict, ConditionChild.anyTrue, failed]

theorem verdict_of_settled {connective : Connective} {child : ConditionChild}
    {rest : List ConditionChild} {truth : Bool} (verdictChild : child.verdict env data = .ok truth)
    (settles : truth ≠ connective.unit) :
    verdict env data ⟨connective, child :: rest⟩ = .ok truth := by
  cases connective with
  | and =>
      obtain rfl : truth = false := by simpa [Connective.unit] using settles
      simp [verdict, ConditionChild.allTrue, verdictChild]
  | or =>
      obtain rfl : truth = true := by simpa [Connective.unit] using settles
      simp [verdict, ConditionChild.anyTrue, verdictChild]

theorem verdict_of_reaches {child : ConditionChild} {c : Condition} {e : FlowError}
    (reaches : Reaches env data child c) (failed : child.verdict env data = .error e) :
    c.verdict env data = .error e := by
  induction reaches with
  | direct passed => rw [verdict_of_passed passed, verdict_of_first_error failed]
  | inner passed _ ih =>
      rw [verdict_of_passed passed, verdict_of_first_error]
      rw [ConditionChild.verdict, ih]

theorem verdict_error_child {connective : Connective} {children : List ConditionChild}
    {e : FlowError} (failed : verdict env data ⟨connective, children⟩ = .error e) :
    ∃ before child after, children = before ++ child :: after ∧
      (∀ earlier ∈ before, earlier.verdict env data = .ok connective.unit) ∧
      child.verdict env data = .error e := by
  induction children with
  | nil => cases connective <;> cases failed
  | cons first rest ih =>
      cases verdictFirst : first.verdict env data with
      | error cause =>
          rw [verdict_of_first_error verdictFirst] at failed
          cases failed
          exact ⟨[], first, rest, rfl, by simp, verdictFirst⟩
      | ok truth =>
          by_cases settles : truth = connective.unit
          · subst settles
            have alone : ∀ earlier ∈ [first],
                earlier.verdict env data = .ok connective.unit := by
              simpa using verdictFirst
            have failedRest : verdict env data ⟨connective, rest⟩ = .error e := by
              rw [← verdict_of_passed alone]
              exact failed
            obtain ⟨before, child, after, rfl, passed, failedChild⟩ := ih failedRest
            refine ⟨first :: before, child, after, rfl, ?_, failedChild⟩
            rw [List.forall_mem_cons]
            exact ⟨verdictFirst, passed⟩
          · rw [verdict_of_settled verdictFirst settles] at failed
            cases failed

theorem induction_on_groups {motive : Condition → Prop}
    (step : ∀ connective children, (∀ group, .group group ∈ children → motive group) →
      motive ⟨connective, children⟩) :
    (c : Condition) → motive c
  | ⟨connective, children⟩ => step connective children fun group _ =>
      induction_on_groups step group
termination_by c => sizeOf c
decreasing_by
  have smaller := List.sizeOf_lt_of_mem ‹_›
  simp only [ConditionChild.group.sizeOf_spec] at smaller
  simp only [Condition.mk.sizeOf_spec]
  omega

theorem exists_failing_leaf {c : Condition} {e : FlowError}
    (failed : c.verdict env data = .error e) :
    ∃ leaf : ConditionChild, leaf.IsLeaf ∧ Reaches env data leaf c ∧
      leaf.verdict env data = .error e := by
  induction c using induction_on_groups with
  | step connective children ih =>
      obtain ⟨before, child, after, rfl, passed, failedChild⟩ := verdict_error_child failed
      cases child with
      | group group =>
          rw [ConditionChild.verdict] at failedChild
          obtain ⟨leaf, isLeaf, reaches, failedLeaf⟩ := ih group (by simp) failedChild
          exact ⟨leaf, isLeaf, .inner passed reaches, failedLeaf⟩
      | truth | relation | presence =>
          refine ⟨_, ?_, .direct passed, failedChild⟩
          trivial

/-- A condition fails exactly when evaluation comes to a leaf that fails. -/
theorem verdict_eq_error {c : Condition} {e : FlowError} :
    c.verdict env data = .error e ↔
      ∃ leaf : ConditionChild, leaf.IsLeaf ∧ Reaches env data leaf c ∧
        leaf.verdict env data = .error e := by
  constructor
  · exact exists_failing_leaf
  · rintro ⟨leaf, _, reaches, failed⟩
    exact verdict_of_reaches reaches failed

end Condition

end FlowLogic
