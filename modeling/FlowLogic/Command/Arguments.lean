import FlowLogic.Command.Invocation
import FlowLogic.Text.Search

/-!
Reading command lines.  Commands nest: after the name of a command come its own arguments.  The
options that all commands have may stand at any level, and the deepest level that has one decides
about it.
-/

namespace FlowLogic

inductive CommandOption where
  | config
  | json
  | noJson
  | quiet
  | functions
  | data
  | kind
  | lenient
  | group
  | names
  | format
  deriving DecidableEq

namespace CommandOption

def long : CommandOption → String
  | .config => "config"
  | .json => "json"
  | .noJson => "no-json"
  | .quiet => "quiet"
  | .functions => "functions"
  | .data => "data"
  | .kind => "kind"
  | .lenient => "lenient"
  | .group => "group"
  | .names => "names"
  | .format => "format"

def short? : CommandOption → Option Char
  | .json => some 'j'
  | .quiet => some 'q'
  | .data => some 'd'
  | .kind => some 'k'
  | .group => some 'g'
  | _ => none

def hasValue : CommandOption → Bool
  | .config | .functions | .data | .kind | .group | .format => true
  | .json | .noJson | .quiet | .lenient | .names => false

/-- Only files with functions may be given more than once at a level. -/
def repeats : CommandOption → Bool
  | .functions => true
  | _ => false

def accepts (option : CommandOption) (value : String) : Bool :=
  match option with
  | .config | .functions => value != ""
  | .kind => value == "auto" || value == "value" || value == "condition"
  | _ => true

def common : List CommandOption := [.config, .json, .noJson, .quiet, .functions]

end CommandOption

inductive Refusal where
  | help
  | version
  | misuse
  deriving DecidableEq

structure Level where
  options : List CommandOption
  arguments : Nat
  commands : List String
  hasVersion : Bool

/-- What a level of a command line holds, options in reverse order. -/
structure Given where
  options : List (CommandOption × String)
  arguments : List String

namespace Given

def has (g : Given) (option : CommandOption) : Bool := g.options.any (·.1 == option)

def values (g : Given) (option : CommandOption) : List String :=
  ((g.options.filter (·.1 == option)).map Prod.snd).reverse

def add (g : Given) (option : CommandOption) (value : String) : Except Refusal Given :=
  if !option.accepts value || (g.has option && !option.repeats) then .error .misuse
  else .ok { g with options := (option, value) :: g.options }

def conflicts (g : Given) : Bool :=
  (g.has .json && g.has .noJson) || (g.has .names && g.has .format)

end Given

structure Progress where
  given : Given
  waiting : Option CommandOption

namespace Level

def long? (level : Level) (name : String) : Option CommandOption :=
  level.options.find? (·.long == name)

def short? (level : Level) (letter : Char) : Option CommandOption :=
  level.options.find? (·.short? == some letter)

def readLong (level : Level) (given : Given) (cs : List Char) : Except Refusal Progress :=
  let name := String.ofList (cs.takeWhile (· != '='))
  match cs.dropWhile (· != '=') with
  | _ :: value =>
    match level.long? name with
    | some option =>
      if option.hasValue then do return ⟨← given.add option (String.ofList value), none⟩
      else .error .misuse
    | none => .error .misuse
  | [] =>
    match level.long? name with
    | some option =>
      if option.hasValue then .ok ⟨given, some option⟩
      else do return ⟨← given.add option "", none⟩
    | none =>
      if name = "help" then .error .help
      else if name = "version" ∧ level.hasVersion = true then .error .version
      else .error .misuse

/-- Options by their letters; what follows the letter of an option with a value is that value. -/
def readLetters (level : Level) (given : Given) : List Char → Except Refusal Progress
  | [] => .ok ⟨given, none⟩
  | letter :: rest =>
    match level.short? letter with
    | some option =>
      if option.hasValue then
        match rest with
        | [] => .ok ⟨given, some option⟩
        | '=' :: value | value => do return ⟨← given.add option (String.ofList value), none⟩
      else
        match given.add option "" with
        | .ok given => readLetters level given rest
        | .error refusal => .error refusal
    | none =>
      if letter = 'h' then .error .help
      else if letter = 'V' ∧ level.hasVersion = true then .error .version
      else .error .misuse

def isOption : List Char → Bool
  | '-' :: _ :: _ => true
  | _ => false

def readArgument (level : Level) (given : Given) (argument : String) : Except Refusal Given :=
  if given.arguments.length < level.arguments then
    .ok { given with arguments := given.arguments ++ [argument] }
  else .error .misuse

/-- Reads a level up to the name of a command, which is given with what follows it.  After two
dashes nothing is an option or a command. -/
def read (level : Level) (given : Given) (waiting : Option CommandOption) (literal : Bool) :
    List String → Except Refusal (Given × Option (String × List String))
  | [] => if waiting.isSome then .error .misuse else .ok (given, none)
  | argument :: rest =>
    let cs := argument.toList
    match waiting with
    | some option =>
      if isOption cs then .error .misuse
      else
        match given.add option argument with
        | .ok given => read level given none literal rest
        | .error refusal => .error refusal
    | none =>
      if !literal && level.commands.contains argument then .ok (given, some (argument, rest))
      else if !literal && isOption cs then
        if argument = "--" then read level given none true rest
        else
          match cs with
          | '-' :: '-' :: long =>
            match level.readLong given long with
            | .ok progress => read level progress.given progress.waiting literal rest
            | .error refusal => .error refusal
          | _ =>
            match level.readLetters given cs.tail with
            | .ok progress => read level progress.given progress.waiting literal rest
            | .error refusal => .error refusal
      else
        match level.readArgument given argument with
        | .ok given => read level given none literal rest
        | .error refusal => .error refusal

def readLast (level : Level) (arguments : List String) : Except Refusal Given := do
  let (given, _) ← level.read ⟨[], []⟩ none false arguments
  if given.arguments.length < level.arguments then .error .misuse
  else return given

def readCommand (level : Level) (arguments : List String) :
    Except Refusal (Given × String × List String) := do
  match ← level.read ⟨[], []⟩ none false arguments with
  | (given, some (command, rest)) => return (given, command, rest)
  | (_, none) => .error .misuse

def ofCommand (options : List CommandOption) (arguments : Nat) : Level :=
  ⟨CommandOption.common ++ options, arguments, [], false⟩

def program : Level :=
  ⟨CommandOption.common, 0, ["eval", "check", "code", "functions", "config", "help"], true⟩

def config : Level :=
  ⟨CommandOption.common, 0, ["show", "path", "set", "reset", "verify", "help"], false⟩

end Level

namespace Invocation

def kindOf (given : Given) : Option DefinitionKind :=
  match given.values .kind with
  | ["value"] => some .value
  | ["condition"] => some .condition
  | _ => none

def readHelp (level : Level) : List String → Refusal
  | [] => .help
  | [command] => if level.commands.contains command then .help else .misuse
  | [command, inner] =>
    if level.commands.contains "config" && command == "config"
      && Level.config.commands.contains inner then .help
    else .misuse
  | _ => .misuse

def readConfigCommand (command : String) (rest : List String) :
    Except Refusal (ConfigCommand × Given) := do
  match command with
  | "show" => return (.show, ← (Level.ofCommand [] 0).readLast rest)
  | "path" => return (.path, ← (Level.ofCommand [] 0).readLast rest)
  | "reset" => return (.reset, ← (Level.ofCommand [] 0).readLast rest)
  | "verify" => return (.verify, ← (Level.ofCommand [] 0).readLast rest)
  | "set" =>
    let given ← (Level.ofCommand [] 2).readLast rest
    match given.arguments with
    | [key, value] => return (.set key value, given)
    | _ => .error .misuse
  | _ => .error (readHelp .config rest)

/-- A command with what its levels hold, the deepest first. -/
def readCommand (command : String) (rest : List String) :
    Except Refusal (Command × List Given) := do
  match command with
  | "eval" =>
    let given ← (Level.ofCommand [.data, .kind, .lenient] 1).readLast rest
    return (.eval (given.arguments.headD "") (given.values .data)[0]? (kindOf given)
      (given.has .lenient), [given])
  | "check" =>
    let given ← (Level.ofCommand [.kind] 1).readLast rest
    return (.check (given.arguments.headD "") (kindOf given), [given])
  | "code" =>
    let given ← (Level.ofCommand [.kind] 1).readLast rest
    return (.code (given.arguments.headD "") (kindOf given), [given])
  | "functions" =>
    let given ← (Level.ofCommand [.group, .names, .format] 0).readLast rest
    return (.functions (given.values .group)[0]? (given.has .names) (given.values .format)[0]?,
      [given])
  | "config" =>
    let (given, inner, rest) ← Level.config.readCommand rest
    let (command, innermost) ← readConfigCommand inner rest
    return (.config command, [innermost, given])
  | _ => .error (readHelp .program rest)

/-- The values of an option at the deepest level that has it. -/
def valuesOf (levels : List Given) (option : CommandOption) : List String :=
  match levels.find? (·.has option) with
  | some given => given.values option
  | none => []

def hasOption (levels : List Given) (option : CommandOption) : Bool := levels.any (·.has option)

def read (arguments : List String) : Except Refusal Invocation := do
  let (given, name, rest) ← Level.program.readCommand arguments
  let (command, inner) ← readCommand name rest
  let levels := inner ++ [given]
  if levels.any Given.conflicts then .error .misuse
  else
    return ⟨(valuesOf levels .config)[0]?, hasOption levels .json, hasOption levels .noJson,
      hasOption levels .quiet, valuesOf levels .functions, command⟩

end Invocation

end FlowLogic
