import FlowLogic.Sandbox.Registry
import FlowLogic.Text.Search

/-!
Listings of the functions of a registry: as documents, as lines of text, and as filled templates.
-/

namespace FlowLogic

structure ListedFunction where
  code : String
  group : String
  returnType : String
  description : String
  arguments : List String
  /-- The function behind the code, where that has another name. -/
  builtin : Option String
  deriving DecidableEq

namespace ListedFunction

def ofSpec (spec : FunctionSpec) : ListedFunction :=
  ⟨spec.code, spec.group, spec.returnType, spec.description,
    spec.arguments.map ArgumentEntry.name,
    if spec.builtin.name = spec.code then none else some spec.builtin.name⟩

def toJson (f : ListedFunction) : Json :=
  .obj ([("code", .str f.code), ("group", .str f.group), ("return_type", .str f.returnType),
    ("description", .str f.description), ("args", .arr (f.arguments.map .str))]
    ++ (f.builtin.map fun name => ("builtin", Json.str name)).toList)

/-- The texts that a template can show, by the names of their places, in the order of these. -/
def places (f : ListedFunction) : Dict String :=
  Dict.ofEntries ([("args", Text.joinTexts ", " f.arguments), ("code", f.code),
    ("description", f.description), ("group", f.group), ("return_type", f.returnType)]
    ++ (f.builtin.map fun name => ("builtin", name)).toList)

def fillPlace (text : String) (place : String × String) : String :=
  Text.replaceText ("\x7b" ++ place.1 ++ "\x7d") place.2 text

def fill (template : String) (f : ListedFunction) : String := f.places.foldl fillPlace template

def line (f : ListedFunction) : String :=
  "  " ++ f.code ++ "(" ++ Text.joinTexts ", " f.arguments ++ ") -> " ++ f.returnType ++ "  "
    ++ f.description

/-- Lines for functions, with a heading wherever the group is not that of the function before. -/
def lines (group? : Option String) : List ListedFunction → List String
  | [] => []
  | f :: rest =>
    (if group? = some f.group then [] else [f.group ++ ":"])
      ++ f.line :: lines (some f.group) rest

end ListedFunction

structure Listing where
  functions : List ListedFunction
  constants : List (String × Json)

namespace Listing

def ofRegistry (r : Registry) (group : Option String) : Listing :=
  match group with
  | some group => ⟨(r.functions.values.filter (·.group == group)).map .ofSpec, []⟩
  | none => ⟨r.functions.values.map .ofSpec, r.constants⟩

def constantToJson (constant : String × Json) : Json :=
  .obj [("name", .str constant.1), ("value", constant.2)]

def toJson (l : Listing) : Json :=
  .obj [("functions", .arr (l.functions.map ListedFunction.toJson)),
    ("constants", .arr (l.constants.map constantToJson))]

def constantLines (constants : List (String × Json)) : List String :=
  if constants.isEmpty then []
  else "constants:" :: constants.map fun (name, value) => "  " ++ name ++ " = " ++ value.compact

def lines (l : Listing) : List String :=
  ListedFunction.lines none l.functions ++ constantLines l.constants

end Listing

end FlowLogic
