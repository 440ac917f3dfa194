import FlowLogic.Command.Arguments
import FlowLogic.Command.Definition
import FlowLogic.Command.Listing
import FlowLogic.Host.Directories
import FlowLogic.Json.Pretty

/-!
Running commands.  A command reads its configuration, the function files and its documents from a
host, and leaves a status and what it printed.
-/

namespace FlowLogic

/-- What a program finds around it, files and input apart. -/
structure Surroundings where
  home : String
  configPath : Option String
  onTerminal : Bool
  clock : Int

inductive OutputMode where
  | text
  | json
  | quiet
  | names
  | format (template : String)
  deriving DecidableEq

namespace OutputMode

/-- The mode that the options of all commands ask for; without any of them the output is JSON unless
it goes to a terminal. -/
def ofOptions (json noJson quiet onTerminal : Bool) : OutputMode :=
  if quiet then .quiet
  else if json then .json
  else if noJson then .text
  else if onTerminal then .text
  else .json

def ofListing (common : OutputMode) (names : Bool) (format : Option String) : OutputMode :=
  match common with
  | .quiet => .quiet
  | common =>
    if names then .names
    else
      match format with
      | some template => .format template
      | none => common

end OutputMode

inductive Ending where
  | finished (status : Nat)
  | misused
  | aborted
  deriving DecidableEq

def Ending.status : Ending → Nat
  | .finished status => status
  | .misused => 2
  | .aborted => 101

structure Outcome where
  ending : Ending
  output : String
  errors : String
  deriving DecidableEq

namespace Outcome

def answer (result : Json) : Json :=
  .obj [("jsonrpc", .str "2.0"), ("result", result), ("id", .null)]

def lines (texts : List String) : String := String.join (texts.map (· ++ "\n"))

def success (output : String) : Outcome := ⟨.finished 0, output, ""⟩

/-- A failure after some output.  In JSON mode it is reported in the output and with its status, in
the others it goes to the errors and the status is 1. -/
def failed (mode : OutputMode) (output : String) (failure : Failure) : Outcome :=
  match failure with
  | .flow error =>
    if error.isRefusedFormat then ⟨.aborted, output, "date format refused\n"⟩
    else report mode output failure
  | failure => report mode output failure
where
  report (mode : OutputMode) (output : String) (failure : Failure) : Outcome :=
    match mode with
    | .json => ⟨.finished failure.status, output ++ failure.toJson.compact ++ "\n", ""⟩
    | _ => ⟨.finished 1, output, failure.text⟩

def refused : Refusal → Outcome
  | .help => success "Usage: flowexpr [OPTIONS] <eval|check|code|functions|config>\n"
  | .version => success "flowexpr 0.1.0\n"
  | .misuse => ⟨.misused, "", "error: the arguments are not understood\n"⟩

end Outcome

structure Report where
  output : String
  failure : Option Failure

namespace Invocation

variable {m : Type → Type} [Monad m]

abbrev Task (m : Type → Type) (α : Type) := ExceptT Failure m α

def orFail {ε α : Type} (failure : ε → Failure) (step : m (Except ε α)) : Task m α :=
  ExceptT.mk do return (← step).mapError failure

/-- The text of an argument: itself, of the file after an at sign, or the input for a dash. -/
def readText (host : Host m) (argument : String) : Task m String :=
  if argument = "-" then ExceptT.lift host.readInput
  else
    match argument.toList with
    | '@' :: path =>
      let path := String.ofList path
      orFail (.unreadable path) (host.read path)
    | _ => return argument

def readDocument (host : Host m) (argument : String) : Task m Json := do
  match Json.readRelaxed? (← readText host argument) with
  | some document => return document
  | none => throw .notJson

/-- The bindings of an argument; none without it, and none of `null`. -/
def readBindings (host : Host m) : Option String → Task m Bindings
  | none => return []
  | some argument => do
    match ← readDocument host argument with
    | .obj fields => return fields
    | .null => return []
    | _ => throw .dataNotObject

def prepare (host : Host m) (configPath : String) (extra : List String) :
    Task m (Config × Registry) := do
  let config ← orFail .config (Config.load host.read configPath)
  return (config, ← orFail .functionFiles (config.buildRegistry host.read configPath extra))

def readDefinition (host : Host m) (registry : Registry) (argument : String)
    (kind : Option DefinitionKind) : Task m Definition := do
  let document ← readDocument host argument
  orFail Failure.flow (pure (Definition.read registry kind document))

def compile (host : Host m) (configPath : String) (extra : List String) (argument : String)
    (kind : Option DefinitionKind) : Task m (Definition × String) := do
  let (_, registry) ← prepare host configPath extra
  let definition ← readDefinition host registry argument kind
  let program ← orFail Failure.flow (pure (definition.check registry))
  return (definition, program.code)

def resultText : Json → String
  | .str text => text
  | other => other.compact

def codeJson (definition : Definition) (code : String) : Json :=
  Outcome.answer (.obj [("kind", .str definition.kind.name), ("code", .str code),
    ("valid", .bool true)])

def resultJson (definition : Definition) (code : Option String) (result : Json) : Json :=
  Outcome.answer (.obj (("kind", .str definition.kind.name)
    :: (code.map fun code => ("code", Json.str code)).toList ++ [("result", result)]))

def printed (mode : OutputMode) (document : Json) (text : String) : String :=
  match mode with
  | .quiet => ""
  | .json => document.compact ++ "\n"
  | _ => text ++ "\n"

def eval (host : Host m) (around : Surroundings) (mode : OutputMode) (configPath : String)
    (extra : List String) (argument : String) (data : Option String)
    (kind : Option DefinitionKind) (lenient : Bool) : Task m String := do
  let (config, registry) ← prepare host configPath extra
  let definition ← readDefinition host registry argument kind
  let bindings ← readBindings host data
  let code ← orFail Failure.flow (pure definition.code?)
  let result ← orFail Failure.flow
    (pure (definition.result ⟨registry, around.clock⟩ bindings (config.strict && !lenient)))
  return printed mode (resultJson definition code result) (resultText result)

def listingText (mode : OutputMode) (listing : Listing) : String :=
  match mode with
  | .quiet => ""
  | .json => (Outcome.answer listing.toJson).compact ++ "\n"
  | .names => Outcome.lines (listing.functions.map ListedFunction.code)
  | .format template => Outcome.lines (listing.functions.map (ListedFunction.fill template))
  | .text => Outcome.lines listing.lines

def save (host : Host m) (configPath : String) (config : Config) : Task m Unit := do
  match HostPath.parent? configPath with
  | some directory => orFail .noDirectory (host.makeDirectories directory)
  | none => pure ()
  orFail (.unwritable configPath) (host.write configPath config.toJson.pretty)

def notice (mode : OutputMode) (text : String) : String :=
  match mode with
  | .quiet => ""
  | _ => text ++ "\n"

def verify (host : Host m) (configPath : String) : m Report := do
  match ← Config.verify host.read configPath with
  | .error fault => return ⟨"", some (.unverified fault)⟩
  | .ok [] => return ⟨"✓ Configuration is valid: " ++ configPath ++ "\n", none⟩
  | .ok faults =>
    let heading :=
      "✗ Configuration has " ++ toString faults.length ++ " error(s): " ++ configPath
    let finding (fault : Nat × FunctionFileError) : String :=
      "  - function_files[" ++ toString fault.1 ++ "]: " ++ fault.2.finding
    return ⟨Outcome.lines (heading :: "" :: faults.map finding), some .unsound⟩

def reportOf (task : Task m String) : m Report := do
  match ← task.run with
  | .ok output => return ⟨output, none⟩
  | .error failure => return ⟨"", some failure⟩

def runConfig (host : Host m) (mode : OutputMode) (configPath : String) :
    ConfigCommand → m Report
  | .show => reportOf do
    let config ← orFail .config (Config.load host.read configPath)
    return config.toJson.pretty ++ "\n"
  | .path => return ⟨configPath ++ "\n", none⟩
  | .set key value => reportOf do
    let config ← orFail .config (Config.load host.read configPath)
    save host configPath (← orFail .setting (pure (config.set key value)))
    return notice mode ("Set " ++ key ++ " = " ++ value)
  | .reset => reportOf do
    save host configPath .defaults
    return notice mode "Configuration reset to defaults"
  | .verify => verify host configPath

def mode (invocation : Invocation) (around : Surroundings) : OutputMode :=
  .ofOptions invocation.json invocation.noJson invocation.quiet around.onTerminal

/-- The path of the configuration file: as given, as the environment has it, or in the home
directory. -/
def configPath (invocation : Invocation) (around : Surroundings) : String :=
  (invocation.config.or around.configPath).getD
    (HostPath.below (HostPath.below around.home ".flowexpr") "config.json")

def report (host : Host m) (around : Surroundings) (invocation : Invocation) : m Report :=
  let mode := invocation.mode around
  let configPath := invocation.configPath around
  match invocation.command with
  | .eval argument data kind lenient =>
    reportOf (eval host around mode configPath invocation.functions argument data kind lenient)
  | .check argument kind => reportOf do
    let (definition, code) ← compile host configPath invocation.functions argument kind
    return printed mode (codeJson definition code) ("✓ " ++ definition.kind.name ++ " is valid")
  | .code argument kind => reportOf do
    let (definition, code) ← compile host configPath invocation.functions argument kind
    return printed mode (codeJson definition code) code
  | .functions group names format => reportOf do
    let (_, registry) ← prepare host configPath invocation.functions
    return listingText (mode.ofListing names format) (.ofRegistry registry group)
  | .config command => runConfig host mode configPath command

def run (host : Host m) (around : Surroundings) (invocation : Invocation) : m Outcome := do
  let report ← invocation.report host around
  match report.failure with
  | none => return .success report.output
  | some failure => return .failed (invocation.mode around) report.output failure

def runArguments (host : Host m) (around : Surroundings) (arguments : List String) :
    m Outcome :=
  match Invocation.read arguments with
  | .ok invocation => invocation.run host around
  | .error refusal => return .refused refusal

end Invocation

end FlowLogic
