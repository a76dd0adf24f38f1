import DexMembers.Files
import DexMembers.Journal
import DexMembers.Mapping.Reader
import DexMembers.Text.Encoding

/-!
# Mapping files

A mapping from the text of a file or from the file itself, with the report of what it holds.
-/

set_option autoImplicit false

namespace DexMembers

inductive MappingError where
  | file (path : String) (error : FileError)
  | line (failure : MappingFailure)
deriving DecidableEq, Repr

namespace MappingError

def message : MappingError → String
  | file path .notFound => "File " ++ path ++ " not found."
  | file path error => "Unable to read " ++ path ++ ": " ++ error.message
  | line failure => failure.message

def causes : MappingError → List String
  | file _ error => [error.message]
  | line _ => []

end MappingError

namespace Mapping

def readTraced (text : String) : Traced MappingFailure Mapping :=
  match read text with
  | .error failure => .ofExcept (.error failure)
  | .ok mapping =>
      ⟨[.mappingRead mapping.classes.size mapping.methodCount mapping.fieldCount], .ok mapping⟩

def ofFile (inputs : Inputs) (path : String) : Traced MappingError Mapping :=
  match inputs.openFile path with
  | .error error => .ofExcept (.error (.file path error))
  | .ok bytes =>
      match Text.ofUtf8? bytes with
      | none => .ofExcept (.error (.file path .notText))
      | some text => (readTraced text).mapError .line

end Mapping

end DexMembers
