import DexMembers.Mapping.Basic
import DexMembers.Mapping.Line

/-!
# Reading mapping files

A mapping file is read line by line.  Member lines belong to the class line above them, and a class
line that renames to the same class as an earlier one replaces all of that one's entry.  The first
line that cannot be read is the failure.
-/

set_option autoImplicit false

namespace DexMembers

structure MappingFailure where
  /-- The number of the line, counted from one. -/
  line : Nat
  /-- What the line should have been. -/
  role : LineRole
  text : String
deriving DecidableEq, Repr

def LineRole.name : LineRole → String
  | nothing => "blank"
  | typeLine => "type"
  | memberLine => "member"

def MappingFailure.message (failure : MappingFailure) : String :=
  "Unable to parse line " ++ failure.line.repr ++ " as " ++ failure.role.name ++ " mapping: " ++
    failure.text

def ClassEntry.insert (entry : ClassEntry) (line : MemberLine) : ClassEntry :=
  let renamed := String.ofList line.renamed
  let original := String.ofList line.original
  match line.parameters with
  | none => { entry with fields := entry.fields.insert renamed original }
  | some parameters =>
      let written := (Text.splitAll ',' parameters).filter (· ≠ [])
      let signature : Signature :=
        { returnType := .ofWritten line.type
          name := renamed
          parameterTypes := written.map .ofWritten }
      { entry with methods := entry.methods.insert signature original }

namespace Mapping

/-- What has been read: finished classes, and the one whose members may still come. -/
structure Progress where
  finished : Dictionary Descriptor ClassEntry := {}
  current : Option (Descriptor × ClassEntry) := none
deriving DecidableEq, Repr

def Progress.classes (progress : Progress) : Dictionary Descriptor ClassEntry :=
  match progress.current with
  | some (renamed, entry) => progress.finished.insert renamed entry
  | none => progress.finished

def Progress.readLine (progress : Progress) (number : Nat) (line : List Char) :
    Except MappingFailure Progress :=
  let failure (role : LineRole) : MappingFailure :=
    { line := number, role, text := String.ofList line }
  match LineRole.of line with
  | .nothing => .ok progress
  | .typeLine =>
      match TypeLine.read? line with
      | none => .error (failure .typeLine)
      | some { original, renamed } =>
          .ok { finished := progress.classes
                current := some (.ofWritten renamed, { original := .ofWritten original }) }
  | .memberLine =>
      match MemberLine.read? line, progress.current with
      | some member, some (renamed, entry) =>
          .ok { progress with current := some (renamed, entry.insert member) }
      | _, _ => .error (failure .memberLine)

def Progress.readLines (progress : Progress) (number : Nat) :
    List (List Char) → Except MappingFailure Progress
  | [] => .ok progress
  | line :: rest =>
      match progress.readLine number line with
      | .ok next => next.readLines (number + 1) rest
      | .error failure => .error failure

/-- The lines of a text, without the carriage returns at their ends. -/
def lines (text : List Char) : List (List Char) :=
  (Text.splitAll '\n' text).map (Text.trimEnd (· = '\r'))

def read (text : String) : Except MappingFailure Mapping :=
  match ({} : Progress).readLines 1 (lines text.toList) with
  | .ok progress => .ok { classes := progress.classes }
  | .error failure => .error failure

end Mapping

end DexMembers
