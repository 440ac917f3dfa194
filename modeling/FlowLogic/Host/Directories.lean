import FlowLogic.Host.Basic
import FlowLogic.Host.Path

/-!
Making a directory together with those above it.
-/

namespace FlowLogic.Host

variable {m : Type → Type} [Monad m] (host : Host m)

/-- A directory is told by the way it cannot be read. -/
def isDirectory (path : String) : m Bool := do
  return (← host.read path) matches .error .isDirectory

def ensureDirectory (path : String) : m (Except FileFault Unit) := do
  match ← host.makeDirectory path with
  | .error .occupied => return if ← host.isDirectory path then .ok () else .error .occupied
  | result => return result

/-- Makes the first directory of a list; where the way to it is missing, those after it come
first. -/
def makeUpwards : List String → m (Except FileFault Unit)
  | [] => return .ok ()
  | path :: above => do
    match ← host.ensureDirectory path with
    | .error .missing =>
      match ← makeUpwards above with
      | .ok () => host.ensureDirectory path
      | .error fault => return .error fault
    | result => return result

def makeDirectories (path : String) : m (Except FileFault Unit) :=
  host.makeUpwards (HostPath.withParents path)

end FlowLogic.Host
