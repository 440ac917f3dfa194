import FlowLogic.Json.Basic

/-!
Whitelists: groups of functions and constants to register, and the documents that describe them.
-/

namespace FlowLogic

inductive ArgumentEntry where
  | named (name : String)
  | detailed (name : String) (type : Option String) (required : Bool)
  deriving DecidableEq

def ArgumentEntry.name : ArgumentEntry → String
  | .named name | .detailed name _ _ => name

/-- What a group says about one of its functions; the rest is as the builtin has it. -/
structure FunctionEntry where
  returnType : Option String
  group : Option String
  description : Option String
  arguments : List ArgumentEntry
  /-- The builtin behind the function, if it is not the one of the same name. -/
  builtin : Option String
  deriving DecidableEq

def FunctionEntry.plain : FunctionEntry := ⟨none, none, none, [], none⟩

inductive FunctionList where
  | names (codes : List String)
  | detailed (byCode : Dict FunctionEntry)

def FunctionList.entries : FunctionList → List (String × FunctionEntry)
  | FunctionList.names codes => codes.map (·, .plain)
  | FunctionList.detailed byCode => byCode

structure FunctionGroup where
  name : String
  functions : FunctionList
  constants : Dict Json

namespace FunctionGroup

def ofTexts? (items : List Json) : Option (List String) := items.mapM Json.text?

def optionalText? : Option Json → Option (Option String)
  | none | some .null => some none
  | some (.str value) => some (some value)
  | some _ => none

def argumentOfJson? : Json → Option ArgumentEntry
  | .str name => some (.named name)
  | .obj fields => do
    let name ← (Dict.value? fields "name").bind Json.text?
    let type ← optionalText? (Dict.value? fields "type")
    let required ←
      match Dict.value? fields "required" with
      | none => some true
      | some (.bool required) => some required
      | some _ => none
    some (.detailed name type required)
  | _ => none

def argumentsOfJson? : Option Json → Option (List ArgumentEntry)
  | none => some []
  | some (.arr items) => items.mapM argumentOfJson?
  | some _ => none

def entryOfParts? (returnType group description arguments builtin : Option Json) :
    Option FunctionEntry := do
  some ⟨← optionalText? returnType, ← optionalText? group, ← optionalText? description,
    ← argumentsOfJson? arguments, ← optionalText? builtin⟩

/-- An entry is an object, or the list of its fields; the description has two names, of which an
object uses one. -/
def entryOfJson? : Json → Option FunctionEntry
  | .obj fields =>
    let field := Dict.value? fields
    if (field "desc").isSome && (field "description").isSome then none
    else
      entryOfParts? (field "return_type") (field "group")
        ((field "desc").or (field "description")) (field "args") (field "function")
  | .arr items =>
    if items.length ≤ 5 then entryOfParts? items[0]? items[1]? items[2]? items[3]? items[4]?
    else none
  | _ => none

def functionsOfJson? : Option Json → Option FunctionList
  | none => some (.names [])
  | some (.obj fields) => do
    some (.detailed (← fields.mapM fun (name, entry) => do some (name, ← entryOfJson? entry)))
  | some (.arr items) => (ofTexts? items).map .names
  | some _ => none

def constantsOfJson? : Option Json → Option (Dict Json)
  | none => some []
  | some (.obj fields) => some fields
  | some _ => none

def ofParts? (name functions constants : Option Json) : Option FunctionGroup := do
  some ⟨← name.bind Json.text?, ← functionsOfJson? functions, ← constantsOfJson? constants⟩

def ofJson? : Json → Option FunctionGroup
  | .obj fields =>
    ofParts? (Dict.value? fields "group") (Dict.value? fields "functions")
      (Dict.value? fields "constants")
  | .arr items => if items.length ≤ 3 then ofParts? items[0]? items[1]? items[2]? else none
  | _ => none

def listOfJson? : Json → Option (List FunctionGroup)
  | .arr items => items.mapM ofJson?
  | _ => none

def present (fields : List (String × Option Json)) : Json :=
  .obj (Dict.ofEntries (fields.filterMap fun (name, value?) => value?.map (name, ·)))

def argumentToJson : ArgumentEntry → Json
  | .named name => .str name
  | .detailed name type required =>
    present [("name", some (.str name)), ("type", type.map .str),
      ("required", some (.bool required))]

def entryToJson (entry : FunctionEntry) : Json :=
  present [("return_type", entry.returnType.map .str), ("group", entry.group.map .str),
    ("desc", entry.description.map .str),
    ("args",
      if entry.arguments.isEmpty then none
      else some (.arr (entry.arguments.map argumentToJson))),
    ("function", entry.builtin.map .str)]

def functionsToJson : FunctionList → Json
  | .names codes => .arr (codes.map .str)
  | .detailed byCode => .obj (byCode.map fun (name, entry) => (name, entryToJson entry))

def toJson (group : FunctionGroup) : Json :=
  present [("group", some (.str group.name)), ("functions", some (functionsToJson group.functions)),
    ("constants", if group.constants.isEmpty then none else some (.obj group.constants))]

end FunctionGroup

end FlowLogic
