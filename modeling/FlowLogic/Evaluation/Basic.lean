import FlowLogic.Condition.Lowering
import FlowLogic.Condition.Reader
import FlowLogic.Definition.Binding
import FlowLogic.Definition.Coercion
import FlowLogic.Sandbox.Session

/-!
Evaluation of values and conditions.  Chains are applied first, the program runs on the bindings
with their results, and the result is converted to the declared type.  Literals and display tokens
need no program.
-/

namespace FlowLogic

inductive FlowError where
  | build (error : BuildError)
  | compile (error : CompileError)
  /-- A condition whose program the registry does not accept. -/
  | ineffective (reason : SandboxError)
  | sandbox (error : SandboxError)
  | coercion (error : CoercionError)
  | transform (error : TransformError)
  deriving DecidableEq

namespace FlowError

def message : FlowError → String
  | .build error => error.message
  | .compile error => error.message
  | .ineffective reason =>
    "compile error: condition is not accepted by the sandbox: " ++ reason.message
  | .sandbox error => error.message
  | .coercion error => error.message
  | .transform error => error.message

def isRefusedFormat : FlowError → Bool
  | .compile (.refusedFormat _) => true
  | .sandbox (.execution (.failed _ (.refusedFormat _))) => true
  | _ => false

end FlowError

namespace Expression

def runProgram (env : Environment) (data : Bindings) (e : Expression) : Except FlowError Json := do
  let bound ← (data.bind e.chained).mapError .transform
  let program ← e.lower.mapError .compile
  (env.execute program bound).mapError .sandbox

end Expression

namespace Member

def idsOf : Json → List Json
  | .null => []
  | .arr items => items
  | other => [other]

end Member

namespace Value

/-- Converts a result to the declared type.  A result that does not fit is an error in strict
evaluation, and `null` otherwise. -/
def convert (strict : Bool) (dataType : Option DataType) (result : Json) : Except FlowError Json :=
  match dataType with
  | none => .ok result
  | some dataType =>
    match dataType.coerce result with
    | .ok value => .ok value
    | .error e => if strict then .error (.coercion e) else .ok .null

end Value

mutual

/-- The result of a value; a list of members always evaluates its fields strictly. -/
def Value.resolve (env : Environment) (data : Bindings) (strict : Bool) :
    Value → Except FlowError Json
  | ⟨kind, expression, dataType⟩ =>
    match Value.literalResult? ⟨kind, expression, dataType⟩ with
    | some result => Value.convert strict dataType result
    | none => do Value.convert strict dataType (← Expression.resolve env data expression)

/-- The result of an expression; a display token on its own has it in its payload. -/
def Expression.resolve (env : Environment) (data : Bindings) :
    Expression → Except FlowError Json
  | ⟨[.display _ kind payload members], false⟩ =>
    if kind.listsMembers then do return .arr (← Member.resolveAll env data members)
    else
      match kind.fixedValue payload with
      | .ok value => .ok value
      | .error refused => .error (.compile (.refusedFormat refused))
  | ⟨tokens, template⟩ => Expression.runProgram env data ⟨tokens, template⟩

def Member.resolveAll (env : Environment) (data : Bindings) :
    List Member → Except FlowError (List Json)
  | [] => .ok []
  | .plain id :: rest => do return id :: (← Member.resolveAll env data rest)
  | .reference value :: rest => do
    let result ← Value.resolve env data true value
    return Member.idsOf result ++ (← Member.resolveAll env data rest)
  | .blankReference :: rest => Member.resolveAll env data rest
  | .brokenReference e :: _ => .error (.build e)

end

namespace Value

def result (env : Environment) (data : Bindings) (v : Value) : Except FlowError Json :=
  v.resolve env data true

/-- Lenient evaluation: a result that does not fit its type is `null`. -/
def lenientResult (env : Environment) (data : Bindings) (v : Value) : Except FlowError Json :=
  v.resolve env data false

def check (registry : Registry) (v : Value) : Except FlowError Node := do
  let program ← v.lower.mapError .compile
  (registry.check program).mapError .sandbox
  return program

end Value

namespace Condition

def validate (registry : Registry) (c : Condition) : Except FlowError Node := do
  let program ← c.lower.mapError .compile
  (registry.check program).mapError .ineffective
  return program

def create (registry : Registry) (connective : Connective) (children : List ConditionChild) :
    Except FlowError Condition := do
  let condition : Condition := ⟨connective, children⟩
  let _ ← condition.validate registry
  return condition

def readChecked (registry : Registry) (document : Json) : Except FlowError (Option Condition) := do
  match ← (Condition.read document).mapError .build with
  | none => return none
  | some condition =>
    let _ ← condition.validate registry
    return some condition

def result (env : Environment) (data : Bindings) (c : Condition) : Except FlowError Bool := do
  let bound ← (data.bind c.chained).mapError .transform
  let program ← c.lower.mapError .compile
  return (← (env.execute program bound).mapError .sandbox).isTrue

end Condition

end FlowLogic
