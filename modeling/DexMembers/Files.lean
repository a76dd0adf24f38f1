/-!
# Files

Reading a file by its path, and why that can fail.  `FileTree` is a set of files and directories
held in memory; it resolves a path step by step from its root, where relative paths start.
-/

set_option autoImplicit false

namespace DexMembers

inductive FileError where
  | notFound
  /-- A path goes on below a file. -/
  | notDirectory
  | isDirectory
  | nameTooLong
  /-- A path holds the character that ends paths. -/
  | nulInPath
  /-- The file was to be text and is not. -/
  | notText
  | other (description : String)
deriving DecidableEq, Repr

def FileError.message : FileError → String
  | notFound => "No such file or directory (os error 2)"
  | notDirectory => "Not a directory (os error 20)"
  | isDirectory => "Is a directory (os error 21)"
  | nameTooLong => "File name too long (os error 36)"
  | nulInPath => "file name contained an unexpected NUL byte"
  | notText => "stream did not contain valid UTF-8"
  | other description => description

structure Inputs where
  openFile : String → Except FileError (List UInt8)
  /-- What is still to come on standard input, or why it cannot be read. -/
  standardInput : Except FileError (List UInt8)

/-- Files and directories by path; a directory has no content. -/
structure FileTree where
  entries : List (List String × Option (List UInt8)) := []

namespace FileTree

/-- A place a path can lead to: one in the tree, by the names that lead there, or a directory
outside of it, of which nothing else is known. -/
inductive Place where
  | inside (names : List String)
  | outside
deriving DecidableEq, Repr

def Place.parent : Place → Place
  | inside [] => outside
  | inside names => inside names.dropLast
  | outside => outside

inductive Node where
  | file (content : List UInt8)
  | directory (place : Place)
deriving DecidableEq, Repr

/-- What the given names lead to from the root: an entry, or a directory if there are entries below
it. -/
def nodeAt? (tree : FileTree) (names : List String) : Option Node :=
  match tree.entries.find? fun entry => names.isPrefixOf entry.1 with
  | none => none
  | some (found, some content) =>
      if found = names then some (.file content) else some (.directory (.inside names))
  | some (_, none) => some (.directory (.inside names))

def child? (tree : FileTree) (name : String) : Place → Option Node
  | .inside names => tree.nodeAt? (names ++ [name])
  | .outside => none

/-- The node that the steps of a path lead to.  Steps of nothing or of one dot stay in a directory,
and two dots go back to the one above. -/
def walk (tree : FileTree) : Node → List String → Except FileError Node
  | node, [] => .ok node
  | .file _, _ :: _ => .error .notDirectory
  | .directory place, step :: rest =>
      if step = "" ∨ step = "." then tree.walk (.directory place) rest
      else if step = ".." then tree.walk (.directory place.parent) rest
      else if 255 < step.utf8ByteSize then .error .nameTooLong
      else
        match tree.child? step place with
        | some node => tree.walk node rest
        | none => .error .notFound

/-- The content of the file at a path.  A path that starts with a slash leads outside. -/
def openFile (tree : FileTree) (path : String) : Except FileError (List UInt8) :=
  let start := if path.toList.head? = some '/' then Place.outside else .inside []
  if path = "" then .error .notFound
  else if path.toList.any (·.toNat = 0) then .error .nulInPath
  else if 4096 ≤ path.utf8ByteSize then .error .nameTooLong
  else
    match tree.walk (.directory start) (path.splitOn "/") with
    | .error error => .error error
    | .ok (.directory _) => .error .isDirectory
    | .ok (.file content) => .ok content

end FileTree

end DexMembers
