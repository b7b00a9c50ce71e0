import ArtifactTrust.Command.Program
import ArtifactTrust.Time.Epoch
import Std.Time.DateTime.Timestamp

/-!
# The command line program

The program over the files, the environment and the clock of the machine it runs on. It brings
no carrier for requests along, so to it every registry is one that cannot be reached, and what
it verifies is kept in image layouts.
-/

namespace ArtifactTrust.Command

set_option autoImplicit false

open System

def errorNumber (code : UInt32) : Nat :=
  if 2 * code.toNat < UInt32.size then code.toNat else UInt32.size - code.toNat

def otherFault (code : UInt32) (text : String) : FileFault :=
  .other (text.capitalize ++ " (os error " ++ toString (errorNumber code) ++ ")")

def fileFault : IO.Error → FileFault
  | .noFileOrDirectory _ _ _ => .missing
  | .inappropriateType _ code _ => if errorNumber code = 21 then .isDirectory else .notDirectory
  | .invalidArgument _ code text =>
    if errorNumber code = 36 then .nameTooLong
    else if errorNumber code = 22 then .zeroInPath
    else otherFault code text
  | .permissionDenied _ code text => otherFault code text
  | .resourceExhausted _ code text => otherFault code text
  | .otherError code text => otherFault code text
  | e => .other (toString e)

def reading {α : Type} (action : IO α) : ExceptT FileFault IO α :=
  ExceptT.mk do
    match ← action.toBaseIO with
    | .ok a => return .ok a
    | .error e => return .error (fileFault e)

def machineFiles : Files IO where
  read path := reading (IO.FS.readBinFile path)
  list path := reading do
    return ((← FilePath.readDir path).map fun entry => entry.fileName).toList

def machineClock : IO Time.Instant := do
  let stamp ← Std.Time.Timestamp.now
  match Time.Instant.ofEpoch? stamp.toNanosecondsSinceUnixEpoch.val.toNat with
  | some instant => return instant
  | none => throw (IO.userError "the clock shows no date")

def machineEnvironment : IO Environment := do
  let found ← variableNames.filterMapM fun name => do
    return (← IO.getEnv name).map fun text => (name, text)
  return .ofList found

/-- This machine, as far as the program makes use of it. -/
def machine : World IO := ⟨machineFiles, .unreachable, machineClock⟩

end ArtifactTrust.Command

open ArtifactTrust.Command in
def main (words : List String) : IO UInt32 := do
  let (code, written) ← machine.main (← machineEnvironment) words
  IO.print written.out
  IO.eprint written.err
  return UInt32.ofNat code
