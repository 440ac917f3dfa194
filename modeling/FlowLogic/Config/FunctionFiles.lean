import FlowLogic.Host.Basic
import FlowLogic.Json.Relaxed
import FlowLogic.Sandbox.Interpreter

/-!
Files with groups of functions, and registries extended by them.
-/

namespace FlowLogic

inductive FunctionFileFault where
  | unreadable (path : String) (fault : FileFault)
  | notJson (path : String)
  | notGroups (path : String)
  deriving DecidableEq

def FunctionFileFault.chain : FunctionFileFault → List String
  | .unreadable path fault => ["Failed to read function file: " ++ path, fault.message]
  | .notJson path => ["Failed to parse function file: " ++ path, "malformed document"]
  | .notGroups path => ["Invalid function groups in " ++ path, "not a function group"]

inductive FunctionFileError where
  | file (fault : FunctionFileFault)
  | registration (path : String) (fault : RegistrationFault)
  deriving DecidableEq

def FunctionFileError.chain : FunctionFileError → List String
  | .file fault => fault.chain
  | .registration path fault =>
    ["Failed to register functions from " ++ path, (SandboxError.registration fault).message]

namespace FunctionGroup

def allOfJson? : Json → Option (List FunctionGroup)
  | .arr items => listOfJson? (.arr items)
  | document => (ofJson? document).map ([·])

def ofFile (path text : String) : Except FunctionFileFault (List FunctionGroup) :=
  match Json.readRelaxed? text with
  | none => .error (.notJson path)
  | some document =>
    match allOfJson? document with
    | some groups => .ok groups
    | none => .error (.notGroups path)

end FunctionGroup

namespace Registry

variable {m : Type → Type} [Monad m] (read : String → m (Except FileFault String))

def addFile (r : Registry) (path : String) : m (Except FunctionFileError Registry) := do
  match ← read path with
  | .error fault => return .error (.file (.unreadable path fault))
  | .ok text =>
    match FunctionGroup.ofFile path text with
    | .error fault => return .error (.file fault)
    | .ok groups =>
      match r.submit groups with
      | (extended, .ok _) => return .ok extended
      | (_, .error fault) => return .error (.registration path fault)

def addFiles : Registry → List String → m (Except FunctionFileError Registry)
  | r, [] => return .ok r
  | r, path :: rest => do
    match ← r.addFile read path with
    | .ok extended => addFiles extended rest
    | .error e => return .error e

/-- Registers the groups of files one after another and passes over those that fail; gives their
positions, counted from the given one, and what is wrong with them. -/
def faultsOfFiles : (position : Nat) → Registry → List String →
    m (List (Nat × FunctionFileError))
  | _, _, [] => return []
  | position, r, path :: rest => do
    match ← r.addFile read path with
    | .ok extended => faultsOfFiles (position + 1) extended rest
    | .error e => return (position, e) :: (← faultsOfFiles (position + 1) r rest)

end Registry

end FlowLogic
