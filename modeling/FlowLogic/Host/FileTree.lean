import FlowLogic.Dict
import FlowLogic.Host.Basic
import FlowLogic.Host.Path

/-!
A host that is kept in memory: directories and files by their paths from the root.  A path leads
somewhere only if every name before its last one is a directory, also where two points lead back.
-/

namespace FlowLogic

inductive TreeEntry where
  | directory
  | file (text : String)
  /-- A file that is always empty, whatever is written to it. -/
  | sink
  deriving DecidableEq

structure FileTree where
  here : List String
  /-- What stands at absolute paths, the root apart. -/
  entries : Dict TreeEntry

namespace FileTree

def path (names : List String) : String := String.join (names.map ("/" ++ ·))

def entry? (t : FileTree) (names : List String) : Option TreeEntry :=
  if names.isEmpty then some .directory else t.entries.value? (path names)

def put (t : FileTree) (names : List String) (entry : TreeEntry) : FileTree :=
  { t with entries := t.entries.put (path names) entry }

def add (t : FileTree) (directory : List String) (entry : TreeEntry) : List String → FileTree
  | [] => t
  | [name] => t.put (directory ++ [name]) entry
  | name :: rest => add (t.put (directory ++ [name]) .directory) (directory ++ [name]) entry rest

def ofFiles (root : String) (files : Dict String) : FileTree :=
  let here := HostPath.names root
  files.foldl (fun t file => t.add here (.file file.2) (HostPath.names file.1))
    (FileTree.add ⟨here, []⟩ [] .directory here)

/-- The most bytes of a name. -/
def nameLimit : Nat := 255

def pathLimit : Nat := 4095

def walk (t : FileTree) (directory : List String) : List String → Except FileFault (List String)
  | [] => .ok directory
  | name :: rest =>
    if name = "." then walk t directory rest
    else if name = ".." then walk t directory.dropLast rest
    else if nameLimit < name.utf8ByteSize then .error .longName
    else
      match t.entry? (directory ++ [name]) with
      | some .directory => walk t (directory ++ [name]) rest
      | some _ => .error .notDirectory
      | none => .error .missing

inductive Target where
  | directory (names : List String)
  | name (directory : List String) (name : String)

def locate (t : FileTree) (target : String) : Except FileFault Target :=
  if target.contains '\x00' then .error .unnameable
  else if target = "" then .error .missing
  else if pathLimit < target.utf8ByteSize then .error .longName
  else
    let start := if HostPath.isAbsolute target then [] else t.here
    let names := HostPath.names target
    match names.getLast? with
    | none => .ok (.directory start)
    | some last =>
      if last = "." ∨ last = ".." then (t.walk start names).map .directory
      else (t.walk start names.dropLast).map (.name · last)

def find (t : FileTree) (target : String) : Except FileFault (List String × Option TreeEntry) := do
  match ← t.locate target with
  | .directory names => return (names, some .directory)
  | .name directory name =>
    if nameLimit < name.utf8ByteSize then throw .longName
    return (directory ++ [name], t.entry? (directory ++ [name]))

def read (t : FileTree) (target : String) : Except FileFault String := do
  match ← t.find target with
  | (_, some .directory) => throw .isDirectory
  | (_, some entry) =>
    if HostPath.endsInSlash target then throw .notDirectory
    match entry with
    | .file text => return text
    | _ => return ""
  | (_, none) => throw .missing

def makeDirectory (t : FileTree) (target : String) : Except FileFault FileTree := do
  match ← t.find target with
  | (_, some _) => throw .occupied
  | (names, none) => return t.put names .directory

/-- Writes a file.  A path that ends in a slash is taken for that of a directory. -/
def write (t : FileTree) (target text : String) : Except FileFault FileTree := do
  match ← t.locate target with
  | .directory _ => throw .isDirectory
  | .name directory name =>
    if HostPath.endsInSlash target then throw .isDirectory
    if nameLimit < name.utf8ByteSize then throw .longName
    match t.entry? (directory ++ [name]) with
    | some .directory => throw .isDirectory
    | some .sink => return t
    | some (.file _) | none => return t.put (directory ++ [name]) (.file text)

def files (t : FileTree) : Dict String :=
  let root := (path t.here ++ "/").toList
  t.entries.filterMap fun (place, entry) =>
    match entry with
    | .file text =>
      if root.isPrefixOf place.toList then
        some (String.ofList (place.toList.drop root.length), text)
      else none
    | _ => none

def changesSince (t before : FileTree) : Dict String :=
  t.files.filter fun (path, text) => before.files.value? path != some text

end FileTree

structure Machine where
  tree : FileTree
  input : String

namespace Machine

def update (change : FileTree → Except FileFault FileTree) :
    StateM Machine (Except FileFault Unit) :=
  fun machine =>
    match change machine.tree with
    | .ok tree => (.ok (), { machine with tree := tree })
    | .error fault => (.error fault, machine)

def host : Host (StateM Machine) where
  read target := fun machine => (machine.tree.read target, machine)
  makeDirectory target := update (·.makeDirectory target)
  write target text := update (·.write target text)
  readInput := fun machine => (machine.input, { machine with input := "" })

end Machine

end FlowLogic
