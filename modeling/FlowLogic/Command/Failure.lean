import FlowLogic.Config.Loading
import FlowLogic.Evaluation.Basic

/-!
How commands fail: the message with its causes, the status that scripts can tell failures apart by,
and the forms that a failure is reported in.
-/

namespace FlowLogic

inductive Failure where
  | flow (error : FlowError)
  | config (fault : ConfigFault)
  | functionFiles (error : FunctionFileError)
  | setting (fault : SettingFault)
  /-- The configuration could not be read for its verification. -/
  | unverified (fault : ConfigFault)
  | unsound
  | unwritable (path : String) (fault : FileFault)
  | noDirectory (fault : FileFault)
  | unreadable (path : String) (fault : FileFault)
  | notJson
  | dataNotObject
  deriving DecidableEq

namespace Failure

def chain : Failure → String × List String
  | .flow error => (error.message, [])
  | .config fault => ("failed to load config", fault.loadingChain)
  | .functionFiles error => ("failed to load function files", error.chain)
  | .setting fault => ("invalid config value", [fault.message])
  | .unverified fault => ("configuration could not be read", fault.verificationChain)
  | .unsound => ("configuration validation failed", [])
  | .unwritable path fault => ("Failed to write config file: " ++ path, [fault.message])
  | .noDirectory fault => (fault.message, [])
  | .unreadable path fault => ("Failed to read " ++ path, [fault.message])
  | .notJson => ("Invalid JSON document", ["malformed document"])
  | .dataNotObject => ("data must be a JSON object", [])

def message (f : Failure) : String := f.chain.1

def causes (f : Failure) : List String := f.chain.2

def flowStatus : FlowError → Nat
  | .build _ => 2
  | .compile _ | .ineffective _ | .sandbox (.registration _) | .sandbox (.rejected _) => 3
  | .sandbox (.execution _) => 4
  | .coercion _ => 5
  | .transform _ => 6

def status : Failure → Nat
  | .flow error => flowStatus error
  | .config _ | .functionFiles _ | .setting _ | .unverified _ | .unsound => 7
  | .unwritable _ _ | .noDirectory _ | .unreadable _ _ | .notJson | .dataNotObject => 1

def path? : Failure → Option String
  | .flow (.build error) =>
    let path := error.path.render
    if path = "" then none else some path
  | _ => none

def data (f : Failure) : List (String × Json) :=
  (f.path?.map fun path => ("path", Json.str path)).toList
    ++ if f.causes.isEmpty then [] else [("details", .str (Text.joinTexts ": " f.causes))]

/-- An answer of the JSON-RPC protocol; the code is the status, below -32000. -/
def toJson (f : Failure) : Json :=
  let code : Json := (Json.ofInt? (-32000 - (f.status : Int))).getD .null
  .obj [("jsonrpc", .str "2.0"),
    ("error", .obj ([("code", code), ("message", .str f.message)]
      ++ if f.data.isEmpty then [] else [("data", .obj f.data)])),
    ("id", .null)]

def indented (first deeper text : String) : String :=
  first ++ Text.replaceText "\n" ("\n" ++ deeper) text

def causeLines (causes : List String) : List String :=
  match causes with
  | [cause] => [indented "    " "    " cause]
  | causes =>
    causes.mapIdx fun position cause =>
      indented ("    " ++ toString position ++ ": ") "       " cause

def text (f : Failure) : String :=
  let causes :=
    if f.causes.isEmpty then "" else "\n\nCaused by:\n" ++ Text.joinTexts "\n" (causeLines f.causes)
  "Error: " ++ f.message ++ causes ++ "\n"

end Failure

end FlowLogic
