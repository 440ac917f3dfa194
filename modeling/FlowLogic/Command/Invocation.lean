/-!
What a command line asks for.
-/

namespace FlowLogic

inductive DefinitionKind where
  | value
  | condition
  deriving DecidableEq

def DefinitionKind.name : DefinitionKind → String
  | .value => "value"
  | .condition => "condition"

inductive ConfigCommand where
  | show
  | path
  | set (key value : String)
  | reset
  | verify
  deriving DecidableEq

/-- A definition is given with its kind, or without where its form tells the kind. -/
inductive Command where
  | eval (definition : String) (data : Option String) (kind : Option DefinitionKind)
      (lenient : Bool)
  | check (definition : String) (kind : Option DefinitionKind)
  | code (definition : String) (kind : Option DefinitionKind)
  | functions (group : Option String) (names : Bool) (format : Option String)
  | config (command : ConfigCommand)
  deriving DecidableEq

structure Invocation where
  config : Option String
  json : Bool
  noJson : Bool
  quiet : Bool
  /-- Files with functions besides the configured ones. -/
  functions : List String
  command : Command
  deriving DecidableEq

end FlowLogic
