import FlowLogic.Condition.Basic
import FlowLogic.Definition.Reader

/-!
Conditions from documents.  Groups without an effective child are left out, so a whole document can
stand for no condition.
-/

namespace FlowLogic

namespace Condition

def readConnective (path : Path) (fields : Dict Json) : Except BuildError Connective :=
  match fields.value? "ops" with
  | none | some .null => .ok .and
  | some (.str tag) =>
    match Connective.ofTag? tag with
    | some connective => .ok connective
    | none => .error ⟨.unknownConnective tag, path.key "ops"⟩
  | some _ => .error ⟨.connectiveNotText, path.key "ops"⟩

def ofChildren? (connective : Connective) (children : List ConditionChild) : Option Condition :=
  if children.isEmpty then none else some ⟨connective, children⟩

end Condition

namespace ConditionChild

def readOperand (key : String) (path : Path) (fields : Dict Json) : Except BuildError Value := do
  match ← Value.readAt (path.key key) ((fields.value? key).getD .null) with
  | some value => return value
  | none => .error ⟨.operandMissing key, path.key key⟩

def readOperator (path : Path) (fields : Dict Json) : Except BuildError Operator :=
  match fields.value? "condition" with
  | some (.str tag) =>
    match Operator.ofTag? tag with
    | some operator => .ok operator
    | none => .error ⟨.unknownComparison tag, path.key "condition"⟩
  | _ => .error ⟨.comparisonMissing, path.key "condition"⟩

def readCompare (path : Path) (fields : Dict Json) : Except BuildError ConditionChild := do
  let left ← readOperand "left_operands" path fields
  match ← readOperator path fields with
  | .relation asked => return .relation asked left (← readOperand "right_operands" path fields)
  | .presence asked => return .presence asked left

/-- The type of a leaf; it can be left out where the keys tell it. -/
def readType (path : Path) (fields : Dict Json) : Except BuildError String :=
  match (fields.value? "type").bind Json.text? with
  | some type => .ok type
  | none =>
    if fields.hasKey "condition" then .ok "compare"
    else if fields.hasKey "operands" then .ok "operation"
    else .error ⟨.itemTypeMissing, path.key "type"⟩

def readLeaf (path : Path) (fields : Dict Json) : Except BuildError ConditionChild := do
  match ← readType path fields with
  | "compare" => readCompare path fields
  | "operation" => return .truth (← readOperand "operands" path fields)
  | other => .error ⟨.unknownItemType other, path.key "type"⟩

def isGroup (fields : Dict Json) : Bool := fields.hasKey "children" || fields.hasKey "ops"

end ConditionChild

mutual

/-- The group that a document describes, if it has an effective child. -/
def Condition.readAt (path : Path) : Json → Except BuildError (Option Condition)
  | .obj fields => do
    let connective ← Condition.readConnective path fields
    let children ← ConditionChild.readUnder (path.key "children") fields
    return Condition.ofChildren? connective children
  | _ => .ok none

def ConditionChild.readUnder (path : Path) :
    List (String × Json) → Except BuildError (List ConditionChild)
  | [] => .ok []
  | (k, v) :: rest =>
    if k = "children" then ConditionChild.readList path v else ConditionChild.readUnder path rest

def ConditionChild.readList (path : Path) : Json → Except BuildError (List ConditionChild)
  | .null => .ok []
  | .arr items => ConditionChild.readAll path 0 items
  | _ => .error ⟨.childrenNotArray, path⟩

def ConditionChild.readAll (path : Path) (position : Nat) :
    List Json → Except BuildError (List ConditionChild)
  | [] => .ok []
  | item :: rest => do
    let child? ← ConditionChild.readAt (path.index position) item
    let children ← ConditionChild.readAll path (position + 1) rest
    return child?.toList ++ children

def ConditionChild.readAt (path : Path) : Json → Except BuildError (Option ConditionChild)
  | .null => .ok none
  | .obj fields =>
    if ConditionChild.isGroup fields then do
      let connective ← Condition.readConnective path fields
      let children ← ConditionChild.readUnder (path.key "children") fields
      return (Condition.ofChildren? connective children).map .group
    else do return some (← ConditionChild.readLeaf path fields)
  | _ => .error ⟨.childNotObject, path⟩

end

def Condition.read (document : Json) : Except BuildError (Option Condition) :=
  Condition.readAt [] document

end FlowLogic
