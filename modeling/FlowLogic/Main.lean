import FlowLogic.Command.Run
import Std.Time.DateTime.Timestamp

/-!
The program: commands run on the files and the streams of the system.
-/

namespace FlowLogic

/-- The fault of an error number, which some calls give as a negative one. -/
def FileFault.ofNumber (number : UInt32) (text : String) : FileFault :=
  match number.toInt32.toInt.natAbs with
  | 20 => .notDirectory
  | 21 => .isDirectory
  | 36 => .longName
  | _ => .other text

def FileFault.ofError : IO.Error → FileFault
  | .noFileOrDirectory _ _ _ => .missing
  | .alreadyExists _ _ _ => .occupied
  | .inappropriateType _ number text | .invalidArgument _ number text => .ofNumber number text
  | e => .other (toString e)

def attempt {α : Type} (path : String) (action : IO α) : IO (Except FileFault α) := do
  if path.contains '\x00' then return .error .unnameable
  match ← action.toBaseIO with
  | .ok value => return .ok value
  | .error e => return .error (.ofError e)

def systemHost : Host IO where
  read path := attempt path (IO.FS.readFile path)
  makeDirectory path := attempt path (IO.FS.createDir path)
  write path text := attempt path (IO.FS.writeFile path text)
  readInput := do (← IO.getStdin).readToEnd

def surroundings : IO Surroundings := do
  return ⟨(← IO.getEnv "HOME").getD "", ← IO.getEnv "FLOWEXPR_CONFIG", ← (← IO.getStdout).isTty,
    (← Std.Time.Timestamp.now).toSecondsSinceUnixEpoch.val⟩

end FlowLogic

open FlowLogic in
def main (arguments : List String) : IO UInt32 := do
  let outcome ← Invocation.runArguments systemHost (← surroundings) arguments
  (← IO.getStdout).putStr outcome.output
  (← IO.getStderr).putStr outcome.errors
  return UInt32.ofNat outcome.ending.status
