import FlowLogic.Sandbox.Function
import FlowLogic.Sandbox.Whitelist
import FlowLogic.Text.Suggestion

/-!
Registries: the functions and constants that programs may use.  What is registered stays as it is,
and a list of groups is registered as a whole or not at all.
-/

namespace FlowLogic

structure FunctionSpec where
  code : String
  group : String
  returnType : String
  description : String
  arguments : List ArgumentEntry
  builtin : Builtin

structure Registry where
  functions : Dict FunctionSpec
  constants : Dict Json

inductive RegistrationFault where
  | emptyCode (group : String)
  | unknownBuiltin (target code : String) (suggestion : Option String)
  deriving DecidableEq

def RegistrationFault.message : RegistrationFault → String
  | .emptyCode group => "empty function code in group '" ++ group ++ "'"
  | .unknownBuiltin target code suggestion =>
    "no host builtin named '" ++ target ++ "' for '" ++ code ++ "'" ++ Text.hint suggestion

inductive ResolutionFault where
  | unknownFunction (name : String) (suggestion : Option String)
  | wrongArity (name : String) (expected : Arity) (actual : Nat)
  deriving DecidableEq

def ResolutionFault.message : ResolutionFault → String
  | .unknownFunction name suggestion => "unknown function '" ++ name ++ "'" ++ Text.hint suggestion
  | .wrongArity name expected actual =>
    name ++ "() expects " ++ expected.display ++ " arguments, got " ++ toString actual

inductive Callee where
  | function (builtin : Builtin)
  | constant (value : Json)

namespace Registry

def empty : Registry := ⟨[], []⟩

def size (r : Registry) : Nat := r.functions.length + r.constants.length

def addFunction (r : Registry) (code group : String) (entry : FunctionEntry) (builtin : Builtin) :
    Registry :=
  { r with
    functions := r.functions.put code
      ⟨code, group, entry.returnType.getD builtin.signature.result.name,
        entry.description.getD builtin.signature.description, entry.arguments, builtin⟩ }

/-- Registers one function of a group, unless its code is taken; says how many codes are new. -/
def register (r : Registry) (group code : String) (entry : FunctionEntry) :
    Except RegistrationFault (Registry × Nat) :=
  if r.functions.hasKey code then .ok (r, 0)
  else if Text.isBlankText code then .error (.emptyCode group)
  else
    let target := entry.builtin.getD code
    match Builtin.ofName? target with
    | some builtin => .ok (r.addFunction code (entry.group.getD group) entry builtin, 1)
    | none =>
      .error (.unknownBuiltin target code (Text.closest? target (Builtin.all.map Builtin.name)))

def registerAll (group : String) :
    Registry → List (String × FunctionEntry) → Except RegistrationFault (Registry × Nat)
  | r, [] => .ok (r, 0)
  | r, (code, entry) :: rest => do
    let (r, added) ← r.register group code entry
    let (r, more) ← registerAll group r rest
    return (r, added + more)

def addConstants : Registry → List (String × Json) → Registry × Nat
  | r, [] => (r, 0)
  | r, (name, value) :: rest =>
    if r.constants.hasKey name then addConstants r rest
    else
      let (r, added) := addConstants { r with constants := r.constants.put name value } rest
      (r, added + 1)

def registerGroups :
    Registry → List FunctionGroup → Except RegistrationFault (Registry × Nat)
  | r, [] => .ok (r, 0)
  | r, group :: rest => do
    let (r, functions) ← registerAll group.name r group.functions.entries
    let (r, constants) := r.addConstants group.constants
    let (r, more) ← registerGroups r rest
    return (r, functions + constants + more)

/-- Registers groups on a copy, which takes the place of the registry only if that goes well; gives
the registry afterwards and the answer. -/
def submit (r : Registry) (groups : List FunctionGroup) :
    Registry × Except RegistrationFault Nat :=
  match r.registerGroups groups with
  | .ok (staged, count) => (staged, .ok count)
  | .error fault => (r, .error fault)

def defaultConstants : Dict Json :=
  [("E", (Json.readNumber? "2.718281828459045").getD .null), ("EOL", .str "\n"),
   ("PI", (Json.readNumber? "3.141592653589793").getD .null)]

def defaults : Registry :=
  Builtin.all.foldl
    (fun r builtin => r.addFunction builtin.name builtin.signature.group .plain builtin)
    ⟨[], defaultConstants⟩

/-- What a call means: a function that takes so many arguments, or a constant without arguments. -/
def resolve (r : Registry) (name : String) (count : Nat) : Except ResolutionFault Callee :=
  match r.functions.value? name with
  | some spec =>
    if spec.builtin.arity.accepts count then .ok (.function spec.builtin)
    else .error (.wrongArity name spec.builtin.arity count)
  | none =>
    match (if count = 0 then r.constants.value? name else none) with
    | some value => .ok (.constant value)
    | none =>
      .error (.unknownFunction name (Text.closest? name (r.functions.keys ++ r.constants.keys)))

end Registry

end FlowLogic
