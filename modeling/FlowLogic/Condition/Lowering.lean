import FlowLogic.Code.Lowering
import FlowLogic.Condition.Basic

/-!
Conditions as programs.  Equality is loose where one side is a numeric literal, and questions about
the presence of a literal are settled at once.
-/

namespace FlowLogic

namespace Relation

def node (relation : Relation) (loose : Bool) (left right : Node) : Node :=
  match relation with
  | .equals => .compare (if loose then .looseEq else .strictEq) left right
  | .notEquals => .compare (if loose then .looseNe else .strictNe) left right
  | .contains => .contains left right
  | .noContains => .not (.contains left right)
  | .gt => .compare .gt left right
  | .lt => .compare .lt left right
  | .gte => .compare .ge left right
  | .lte => .compare .le left right

def lower (relation : Relation) (left right : Value) : Except CompileError Node := do
  let l ← left.lower
  let r ← right.lower
  return relation.node (left.isNumericLiteral || right.isNumericLiteral) l r

end Relation

namespace Presence

def emptyTexts : List String := ["", "0", "false", "[]"]

def inputValue? (label : Label) : Option Json :=
  match label.origin with
  | .const => some (Value.literalValue label.text)
  | .expression =>
    match label.lowerFragment with
    | .ok (.raw _ value) => some value
    | _ => none

def literalValue? (v : Value) : Option Json :=
  match v.expression.single? with
  | some (.input label) => inputValue? label
  | _ => none

def isEmptyLiteral : Json → Bool
  | .null => true
  | literal => emptyTexts.contains literal.asText

def ofLiteral (presence : Presence) (literal : Json) : Bool :=
  match presence with
  | .empty | .valuable => isEmptyLiteral literal
  | .notEmpty | .noValuable => !isEmptyLiteral literal

def node (presence : Presence) (value : Node) : Node :=
  match presence with
  | .empty => .not (.isSet value)
  | .notEmpty => .isSet value
  | .valuable => .compare .looseEq (.coalesce value) (.literal (.str ""))
  | .noValuable => .compare .looseNe (.coalesce value) (.literal (.str ""))

def lower (presence : Presence) (v : Value) : Except CompileError Node :=
  match literalValue? v with
  | some literal => .ok (.literal (.bool (presence.ofLiteral literal)))
  | none => v.lower.map presence.node

end Presence

mutual

def Condition.lower : Condition → Except CompileError Node
  | ⟨connective, children⟩ => (ConditionChild.lowerAll children).map (.logical connective)

def ConditionChild.lower : ConditionChild → Except CompileError Node
  | .group condition => condition.lower
  | .truth value => value.lower.map .paren
  | .relation asked left right => (asked.lower left right).map .paren
  | .presence asked value => (asked.lower value).map .paren

def ConditionChild.lowerAll : List ConditionChild → Except CompileError (List Node)
  | [] => .ok []
  | child :: rest => do
    let node ← child.lower
    return node :: (← ConditionChild.lowerAll rest)

end

def Condition.code (c : Condition) : Except CompileError String := c.lower.map Node.code

end FlowLogic
