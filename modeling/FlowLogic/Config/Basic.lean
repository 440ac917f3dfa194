import FlowLogic.Json.Written
import FlowLogic.Text.Blank
import FlowLogic.Text.Case
import FlowLogic.Text.Search

/-!
Configurations: whether evaluation is strict, and the files with functions to register.
-/

namespace FlowLogic

structure Config where
  strict : Bool
  /-- Paths, as the configuration file means them. -/
  functionFiles : List String
  deriving DecidableEq

inductive SettingFault where
  | notBoolean (value : String)
  | unknownKey (key : String)
  deriving DecidableEq

def SettingFault.message : SettingFault → String
  | .notBoolean value =>
    "Invalid boolean value: " ++ value ++ ". Use true/false, yes/no, 1/0, or on/off"
  | .unknownKey key =>
    "Unknown config key: " ++ key ++ ". Valid keys: settings.strict, function_files"

namespace Config

def defaults : Config := ⟨true, []⟩

def readBool? (value : String) : Option Bool :=
  match Text.lowerText value with
  | "true" | "1" | "yes" | "on" => some true
  | "false" | "0" | "no" | "off" => some false
  | _ => none

def readList (value : String) : List String :=
  ((Text.splitText "," value).map Text.trimText).filter (· != "")

def set (c : Config) (key value : String) : Except SettingFault Config :=
  match key with
  | "settings.strict" =>
    match readBool? value with
    | some strict => .ok { c with strict := strict }
    | none => .error (.notBoolean value)
  | "function_files" => .ok { c with functionFiles := readList value }
  | _ => .error (.unknownKey key)

/-- The document of a configuration, in the order it is written; no files are not mentioned. -/
def toJson (c : Config) : Json :=
  .obj (("settings", .obj [("strict", .bool c.strict)]) ::
    if c.functionFiles.isEmpty then []
    else [("function_files", .arr (c.functionFiles.map .str))])

/-- Whether an entry of a record is known under one of the names, or else stands for something. -/
def isFieldOf (names : List String) (entry : Option String × Written) : Bool :=
  match entry.1 with
  | some key => names.contains key || entry.2.value?.isSome
  | none => false

/-- The fields of a record: by name, each at most once, or in order.  Entries of other names have to
stand for something; items beyond the last field are not looked at. -/
def fieldsOf? (names : List String) : Written → Option (List (Option Written))
  | .table entries =>
    if entries.all (isFieldOf names) then
      names.mapM fun name =>
        match entries.filter (·.1 == some name) with
        | [] => some none
        | [(_, field)] => some (some field)
        | _ => none
    else none
  | .list items => some ((List.range names.length).map (items[·]?))
  | .scalar _ => none

def readStrict? : Option Written → Option Bool
  | none => some defaults.strict
  | some settings =>
    match fieldsOf? ["strict"] settings with
    | some [none] => some defaults.strict
    | some [some (.scalar (some (.bool strict)))] => some strict
    | _ => none

def readFile? : Written → Option String
  | .scalar (some (.str path)) => some path
  | _ => none

def readFiles? : Option Written → Option (List String)
  | none => some defaults.functionFiles
  | some (.list items) => items.mapM readFile?
  | some _ => none

def ofWritten? (document : Written) : Option Config :=
  match fieldsOf? ["settings", "function_files"] document with
  | some [settings, files] => do some ⟨← readStrict? settings, ← readFiles? files⟩
  | _ => none

end Config

end FlowLogic
