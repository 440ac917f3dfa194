import FlowLogic.Code.Node
import FlowLogic.Sandbox.Registry

/-!
Running programs.  A program runs only if every call in it resolves, the ones that would not be
reached too; what runs can then fail only in a function itself.
-/

namespace FlowLogic

inductive RunFault where
  | unresolved (fault : ResolutionFault)
  | failed (name : String) (failure : CallFailure)
  deriving DecidableEq

def RunFault.message : RunFault → String
  | .unresolved fault => fault.message
  | .failed name failure => name ++ "() failed: " ++ failure.message

structure Environment where
  registry : Registry
  /-- The time, in seconds since the start of 1970. -/
  clock : Int

namespace Comparator

def test (comparator : Comparator) (left right : Json) : Bool :=
  match comparator with
  | .looseEq => left.looseEq right
  | .looseNe => !left.looseEq right
  | .strictEq => left.strictEq right
  | .strictNe => !left.strictEq right
  | .gt => left.order? right == some .gt
  | .lt => left.order? right == some .lt
  | .ge => left.order? right == some .gt || left.order? right == some .eq
  | .le => left.order? right == some .lt || left.order? right == some .eq

end Comparator

namespace Node

variable (env : Environment) (data : Bindings)

def invoke (name : String) (builtin : Builtin) (arguments : List Json) : Except RunFault Json :=
  match builtin.run env.clock arguments with
  | .ok value => .ok value
  | .error failure => .error (.failed name failure)

mutual

def eval : Node → Except RunFault Json
  | literal value | raw _ value => .ok value
  | lookup path => .ok ((data.lookup? path).getD .null)
  | call name arguments =>
    match env.registry.resolve name arguments.length with
    | .error fault => .error (.unresolved fault)
    | .ok (.constant value) => .ok value
    | .ok (.function builtin) => do invoke env name builtin (← evalAll arguments)
  | concat parts => do return .str (String.ofList ((← evalAll parts).flatMap Json.asChars))
  | not inner => do return .bool !(← eval inner).isTrue
  | isSet inner => do return .bool !(← eval inner).isUnset
  | coalesce inner => do
    let value ← eval inner
    return if value.isUnset then .str "" else value
  | contains haystack needle => do
    let whole ← eval haystack
    return .bool (whole.holds (← eval needle))
  | compare comparator left right => do
    let value ← eval left
    return .bool (comparator.test value (← eval right))
  | logical connective operands => do return .bool (← evalLogical connective operands)
  | paren inner => eval inner

def evalAll : List Node → Except RunFault (List Json)
  | [] => .ok []
  | node :: rest => do
    let value ← eval node
    return value :: (← evalAll rest)

def evalLogical (connective : Connective) : List Node → Except RunFault Bool
  | [] => .ok connective.unit
  | node :: rest => do
    let truth := (← eval node).isTrue
    if truth = connective.unit then evalLogical connective rest else return truth

end

def checkCalls (registry : Registry) : List (String × Nat) → Except ResolutionFault Unit
  | [] => .ok ()
  | (name, count) :: rest =>
    match registry.resolve name count with
    | .ok _ => checkCalls registry rest
    | .error fault => .error fault

end Node

inductive SandboxError where
  | registration (fault : RegistrationFault)
  | rejected (fault : ResolutionFault)
  | execution (fault : RunFault)
  deriving DecidableEq

def SandboxError.message : SandboxError → String
  | .registration fault => "sandbox error: registration failed: " ++ fault.message
  | .rejected fault => "sandbox error: program rejected: " ++ fault.message
  | .execution fault => "sandbox error: execution failed: " ++ fault.message

namespace Registry

def check (registry : Registry) (program : Node) : Except SandboxError Unit :=
  match Node.checkCalls registry program.calls with
  | .ok () => .ok ()
  | .error fault => .error (.rejected fault)

end Registry

namespace Environment

/-- Runs a program that is known to resolve. -/
def run (env : Environment) (program : Node) (data : Bindings) : Except SandboxError Json :=
  match program.eval env data with
  | .ok value => .ok value
  | .error fault => .error (.execution fault)

def execute (env : Environment) (program : Node) (data : Bindings) : Except SandboxError Json :=
  match env.registry.check program with
  | .ok () => env.run program data
  | .error e => .error e

end Environment

end FlowLogic
