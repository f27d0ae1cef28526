import FederationConfig.CommandLine.Run

open FederationConfig

def systemCode (code : UInt32) : Nat := min code.toNat (2 ^ 32 - code.toNat)

def faultOf (error : IO.Error) : FileFault :=
  match error with
  | .noFileOrDirectory .. => .notFound
  | .inappropriateType _ code _ =>
    if systemCode code = 20 then .notDirectory else .isDirectory
  | .invalidArgument _ code details =>
    if systemCode code = 36 then .nameTooLong else .other details
  | .permissionDenied .. => .accessDenied
  | _ => .other (toString error)

def readFile (path : FilePath) : IO (Except FileFault ByteArray) := do
  try
    return .ok (← IO.FS.readBinFile path.display)
  catch error =>
    return .error (faultOf error)

def namedFiles : CommandLine.Command → List FilePath
  | .validate files .. => files
  | .features _ => []

def fileSystemOf (found : List (FilePath × Except FileFault ByteArray)) : FileSystem := fun path =>
  (found.lookup path).getD (.error .notFound)

def main (arguments : List String) : IO UInt32 := do
  let named := match CommandLine.read {} arguments with
    | .ok command => namedFiles command
    | .error _ => []
  let found ← named.mapM fun path => return (path, ← readFile path)
  let outcome := CommandLine.run (fileSystemOf found) arguments
  (← IO.getStdout).putStr outcome.output
  (← IO.getStderr).putStr outcome.errors
  return outcome.code.toUInt32
