import FlowLogic.Text.Search

/-!
File paths: names with slashes between them, from the root if a slash comes first.
-/

namespace FlowLogic.HostPath

def isAbsolute (path : String) : Bool := path.toList.head? == some '/'

def dropTail : List Char → List Char
  | '/' :: c :: rest => dropTail (c :: rest)
  | '.' :: '/' :: rest => dropTail ('/' :: rest)
  | cs => cs

/-- The directory that a path leads into; it is empty for a lone name. -/
def parent? (path : String) : Option String :=
  match dropTail path.toList.reverse with
  | [] | ['/'] => none
  | cs => some (String.ofList (dropTail (cs.dropWhile (· != '/'))).reverse)

def upwards : (count : Nat) → (path : String) → List String
  | 0, _ => []
  | count + 1, path =>
    if path = "" then []
    else
      match parent? path with
      | some directory => path :: upwards count directory
      | none => [path]

def withParents (path : String) : List String := upwards path.length path

def below (directory path : String) : String :=
  if isAbsolute path || directory == "" then path
  else if directory.toList.getLast? == some '/' then directory ++ path
  else directory ++ "/" ++ path

def besides (file path : String) : String :=
  match parent? file with
  | some directory => below directory path
  | none => path

def names (path : String) : List String := (Text.splitText "/" path).filter (· != "")

def endsInSlash (path : String) : Bool := path.toList.getLast? == some '/'

end FlowLogic.HostPath
