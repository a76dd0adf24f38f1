import DexMembers.CommandLine

/-!
# The program

Reads the files that the arguments name, and standard input if they name none, and hands all of it
to the command line.
-/

set_option autoImplicit false

namespace DexMembers

def FileError.ofSystem : IO.Error → FileError
  | .noFileOrDirectory _ _ _ => .notFound
  | .inappropriateType none _ _ => .isDirectory
  | .inappropriateType (some _) _ _ => .notDirectory
  | error => .other (toString error)

def contentOf (reading : IO ByteArray) : IO (Except FileError (List UInt8)) := do
  try
    return .ok (← reading).toList
  catch error =>
    return .error (FileError.ofSystem error)

def CommandLine.Arguments.paths (arguments : CommandLine.Arguments) : List String :=
  arguments.mapping.toList ++ arguments.files

def readInputs (arguments : List String) : IO Inputs := do
  match CommandLine.read arguments with
  | some (.run parsed) =>
      let contents ← parsed.paths.mapM fun (path : String) =>
        return (path, ← contentOf (IO.FS.readBinFile path))
      let standardInput ←
        if parsed.files.isEmpty then contentOf (do (← IO.getStdin).readBinToEnd) else pure (.ok [])
      return {
        openFile := fun path => (contents.lookup path).getD (.error .notFound)
        standardInput }
  | _ => return { openFile := fun _ => .error .notFound, standardInput := .ok [] }

end DexMembers

def main (arguments : List String) : IO UInt32 := do
  let outcome := DexMembers.CommandLine.outcome (← DexMembers.readInputs arguments) arguments
  (← IO.getStdout).write outcome.output.toByteArray
  IO.eprint (outcome.diagnostics.getD DexMembers.CommandLine.usage)
  return UInt32.ofNat outcome.code
