import Entitlement.CommandLine

/-!
The program: the command line over the files, the variables and the random numbers of the system.
-/

namespace Entitlement

/-- What the system says of a file that could not be read. -/
def FileFault.ofSystem : IO.Error → FileFault
  | .noFileOrDirectory _ _ _ => missing
  | .inappropriateType _ code _ => if code == 21 then isDirectory else notDirectory
  | .invalidArgument _ 36 _ => nameTooLong
  | .permissionDenied _ _ _ => .other "Permission denied (os error 13)"
  | e => .other (toString e)

def readTextFile (path : String) : IO (Except FileFault String) := do
  if path.contains '\x00' then return .error .nulInPath
  try
    match String.fromUTF8? (← IO.FS.readBinFile path) with
    | some text => return .ok text
    | none => return .error .notText
  catch e => return .error (.ofSystem e)

/-- The variables that the program looks at. -/
def readEnvironment : IO Environment := do
  let names := ["ACLGRAPH_CONFIG", "ACLGRAPH_MODEL", "ACLGRAPH_GLOBAL_GROUP", "ACLGRAPH_AUTHENTICATOR",
    "ACLGRAPH_SEED"]
  let values ← names.mapM fun name => return (name, ← IO.getEnv name)
  return fun name => (values.find? (·.1 == name)).bind (·.2)

/-- Sixteen random bytes as a number. -/
def randomNumber : IO Nat := do
  return (← IO.getRandomBytes 16).toList.foldl (fun n byte => n * 256 + byte.toNat) 0

end Entitlement

open Entitlement in
def main (arguments : List String) : IO UInt32 := do
  let state : State :=
    { store := { nextId := ← randomNumber }, nextSession := ← randomNumber, nextSalt := ← randomNumber }
  let outcome ← CommandLine.run readTextFile (← readEnvironment) state arguments
  IO.print outcome.out
  IO.eprint outcome.err
  return outcome.status.toUInt32
