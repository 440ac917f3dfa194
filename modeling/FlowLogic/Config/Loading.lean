import FlowLogic.Config.Basic
import FlowLogic.Config.FunctionFiles
import FlowLogic.Host.Path

/-!
Configuration files: reading them, the registry that they describe, and their verification.
-/

namespace FlowLogic

inductive ConfigFault where
  | missing (path : String)
  | unreadable (path : String) (fault : FileFault)
  | malformed (path : String)
  deriving DecidableEq

namespace ConfigFault

def loadingChain : ConfigFault → List String
  | .missing path => ["config file not found: " ++ path]
  | .unreadable path fault => ["Failed to read config file: " ++ path, fault.message]
  | .malformed path => ["Failed to parse config file: " ++ path, "malformed document"]

def verificationChain : ConfigFault → List String
  | .missing path => ["config file not found: " ++ path]
  | .unreadable path fault => ["failed to read config file: " ++ path, fault.message]
  | .malformed _ => ["invalid JSON: malformed document"]

end ConfigFault

namespace Config

def read? (text : String) : Option Config := (Written.read? text).bind ofWritten?

def filePaths (c : Config) (configPath : String) : List String :=
  c.functionFiles.map (HostPath.besides configPath)

variable {m : Type → Type} [Monad m] (read : String → m (Except FileFault String))

def ofFile (path : String) : m (Except ConfigFault Config) := do
  match ← read path with
  | .error fault =>
    return .error (if fault.isAbsence then .missing path else .unreadable path fault)
  | .ok text =>
    match read? text with
    | some config => return .ok config
    | none => return .error (.malformed path)

/-- The configuration in a file; the defaults where there is none. -/
def load (path : String) : m (Except ConfigFault Config) := do
  match ← ofFile read path with
  | .error (.missing _) => return .ok defaults
  | result => return result

def buildRegistry (c : Config) (configPath : String) (extra : List String) :
    m (Except FunctionFileError Registry) :=
  Registry.defaults.addFiles read (c.filePaths configPath ++ extra)

def fileFaults (c : Config) (configPath : String) : m (List (Nat × FunctionFileError)) :=
  Registry.defaults.faultsOfFiles read 0 (c.filePaths configPath)

def verify (path : String) : m (Except ConfigFault (List (Nat × FunctionFileError))) := do
  match ← ofFile read path with
  | .error fault => return .error fault
  | .ok config => return .ok (← config.fileFaults read path)

end Config

def FunctionFileError.finding : FunctionFileError → String
  | .file fault => Text.joinTexts ": " fault.chain
  | .registration _ fault => (SandboxError.registration fault).message

end FlowLogic
