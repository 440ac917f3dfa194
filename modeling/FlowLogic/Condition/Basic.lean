import FlowLogic.Code.Node
import FlowLogic.Definition.Value

/-!
Conditions: groups of leaves and further groups under one connective.  A leaf tests the truth of a
value, relates two values, or asks whether a value is there at all.
-/

namespace FlowLogic

inductive Relation where
  | equals
  | notEquals
  | contains
  | noContains
  | gt
  | lt
  | gte
  | lte
  deriving DecidableEq

/-- What a question about one value asks.  The names read the other way round: `empty` holds of what
is unset, and `valuable` of what is unset or blank. -/
inductive Presence where
  | empty
  | notEmpty
  | valuable
  | noValuable
  deriving DecidableEq

inductive Operator where
  | relation (asked : Relation)
  | presence (asked : Presence)
  deriving DecidableEq

namespace Relation

def name : Relation → String
  | .equals => "equals"
  | .notEquals => "not_equals"
  | .contains => "contains"
  | .noContains => "no_contains"
  | .gt => "gt"
  | .lt => "lt"
  | .gte => "gte"
  | .lte => "lte"

end Relation

namespace Presence

def name : Presence → String
  | .empty => "empty"
  | .notEmpty => "not_empty"
  | .valuable => "valuable"
  | .noValuable => "no_valuable"

end Presence

namespace Operator

def name : Operator → String
  | .relation asked => asked.name
  | .presence asked => asked.name

def needsRight : Operator → Bool
  | .relation _ => true
  | .presence _ => false

def ofTag? (tag : String) : Option Operator :=
  match Text.asciiLower (Text.trimText tag) with
  | "equals" | "equal" | "eq" | "==" => some (.relation .equals)
  | "not_equals" | "not_equal" | "no_equals" | "ne" | "!=" => some (.relation .notEquals)
  | "contains" | "contain" | "like" => some (.relation .contains)
  | "no_contains" | "not_contains" | "not_contain" | "not_like" => some (.relation .noContains)
  | "gt" | ">" | "greater_than" => some (.relation .gt)
  | "lt" | "<" | "less_than" => some (.relation .lt)
  | "gte" | ">=" | "greater_than_or_equal" => some (.relation .gte)
  | "lte" | "<=" | "less_than_or_equal" => some (.relation .lte)
  | "empty" | "is_empty" => some (.presence .empty)
  | "not_empty" | "no_empty" | "is_not_empty" => some (.presence .notEmpty)
  | "valuable" => some (.presence .valuable)
  | "no_valuable" | "not_valuable" => some (.presence .noValuable)
  | _ => none

end Operator

mutual

structure Condition where
  connective : Connective
  children : List ConditionChild

inductive ConditionChild where
  | group (condition : Condition)
  | truth (value : Value)
  | relation (asked : Relation) (left right : Value)
  | presence (asked : Presence) (value : Value)

end

namespace ConditionChild

/-- A leaf that compares; a relation needs a right value, and a presence does without. -/
def compare (operator : Operator) (left : Value) (right : Option Value) :
    Except BuildError ConditionChild :=
  match operator, right with
  | .relation asked, some right => .ok (.relation asked left right)
  | .relation asked, none => .error ⟨.rightOperandMissing asked.name, [.key "right_operands"]⟩
  | .presence asked, _ => .ok (.presence asked left)

end ConditionChild

mutual

def Condition.chained : Condition → List Token
  | ⟨_, children⟩ => ConditionChild.chainedAll children

def ConditionChild.chained : ConditionChild → List Token
  | .group condition => condition.chained
  | .truth value | .presence _ value => value.chained
  | .relation _ left right => left.chained ++ right.chained

def ConditionChild.chainedAll : List ConditionChild → List Token
  | [] => []
  | child :: rest => child.chained ++ ConditionChild.chainedAll rest

end

end FlowLogic
