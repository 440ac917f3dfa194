import FlowLogic.Command.Failure
import FlowLogic.Command.Invocation

/-!
Definitions as commands take them: documents that describe a value or a condition.
-/

namespace FlowLogic

inductive Definition where
  | value (value : Value)
  | condition (condition : Condition)

namespace Definition

def kind : Definition → DefinitionKind
  | .value _ => .value
  | .condition _ => .condition

/-- An object with children or a connective is taken for a condition, all else for a value. -/
def kindOf (document : Json) : DefinitionKind :=
  if (document.value? "children").isSome || (document.value? "ops").isSome then .condition
  else .value

def read (registry : Registry) (kind : Option DefinitionKind) (document : Json) :
    Except FlowError Definition := do
  match kind.getD (kindOf document) with
  | .condition =>
    match ← Condition.readChecked registry document with
    | some c => return .condition c
    | none => .error (.build ⟨.noEffectiveChildren, []⟩)
  | .value =>
    match ← (Value.read document).mapError FlowError.build with
    | some v => return .value v
    | none => .error (.build ⟨.noTokens, []⟩)

def check (registry : Registry) : Definition → Except FlowError Node
  | .value v => v.check registry
  | .condition c => c.validate registry

def code? : Definition → Except FlowError (Option String)
  | .value v =>
    match v.code with
    | .ok code => .ok (some code)
    | .error (.refusedFormat refused) => .error (.compile (.refusedFormat refused))
    | .error _ => .ok none
  | .condition c => (c.code.mapError FlowError.compile).map some

def result (env : Environment) (data : Bindings) (strict : Bool) :
    Definition → Except FlowError Json
  | .value v => v.resolve env data strict
  | .condition c => (c.result env data).map .bool

end Definition

end FlowLogic
