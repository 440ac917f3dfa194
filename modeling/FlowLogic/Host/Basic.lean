/-!
What a program may do outside of itself, with any monad to do it in.
-/

namespace FlowLogic

inductive FileFault where
  | missing
  | occupied
  | notDirectory
  | isDirectory
  | longName
  | unnameable
  | other (text : String)
  deriving DecidableEq

namespace FileFault

def message : FileFault → String
  | .missing => "No such file or directory (os error 2)"
  | .occupied => "File exists (os error 17)"
  | .notDirectory => "Not a directory (os error 20)"
  | .isDirectory => "Is a directory (os error 21)"
  | .longName => "File name too long (os error 36)"
  | .unnameable => "file name contained an unexpected NUL byte"
  | .other text => text

def isAbsence : FileFault → Bool
  | .missing | .notDirectory | .longName | .unnameable => true
  | .occupied | .isDirectory | .other _ => false

end FileFault

structure Host (m : Type → Type) where
  read : String → m (Except FileFault String)
  makeDirectory : String → m (Except FileFault Unit)
  write : (path text : String) → m (Except FileFault Unit)
  readInput : m String

end FlowLogic
