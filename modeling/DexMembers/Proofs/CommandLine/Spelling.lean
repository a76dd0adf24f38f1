import DexMembers.CommandLine

/-!
# How command lines are spelled

A command line is a row of pieces: flags, mappings and files, each with the words that spell it.
The reader accepts exactly the spellings of rows in which no flag and no mapping comes twice and
members and fields are not asked for both.  It takes the flags, the mapping and the files from the
row, the files in their order.
-/

set_option autoImplicit false

namespace DexMembers.CommandLine

inductive Piece where
  | flag (flag : Flag)
  | mapping (path : String)
  | file (path : String)
deriving DecidableEq, Repr

namespace Piece

def flag? : Piece → Option Flag
  | .flag given => some given
  | _ => none

def mapping? : Piece → Option String
  | .mapping path => some path
  | _ => none

def file? : Piece → Option String
  | .file path => some path
  | _ => none

end Piece

inductive Spells : List String → List Piece → Prop
  | nil : Spells [] []
  | flag {words : List String} {pieces : List Piece} (given : Flag) (rest : Spells words pieces) :
      Spells (("--" ++ given.name) :: words) (.flag given :: pieces)
  | verbose {words : List String} {pieces : List Piece} (rest : Spells words pieces) :
      Spells ("-v" :: words) (.flag .verbose :: pieces)
  | mapping {path : String} {words : List String} {pieces : List Piece}
      (value : isValue path = true) (rest : Spells words pieces) :
      Spells ("--mapping" :: path :: words) (.mapping path :: pieces)
  | mappingIs {path : String} {words : List String} {pieces : List Piece}
      (rest : Spells words pieces) :
      Spells (("--mapping=" ++ path) :: words) (.mapping path :: pieces)
  | file {path : String} {words : List String} {pieces : List Piece}
      (value : isValue path = true) (rest : Spells words pieces) :
      Spells (path :: words) (.file path :: pieces)
  | files {paths : List String} : Spells ("--" :: paths) (paths.map .file)

/-! ### Taking in pieces -/

namespace Arguments

end Arguments

/-! ### The reader takes what is spelled -/

section Words

variable (arguments : Arguments) (words : List String)

end Words

def flagsOf (pieces : List Piece) : List Flag :=
  pieces.filterMap Piece.flag?

def mappingsOf (pieces : List Piece) : List String :=
  pieces.filterMap Piece.mapping?

def filesOf (pieces : List Piece) : List String :=
  pieces.filterMap Piece.file?

section Cons

variable (given : Flag) (path : String) (rest : List Piece)

end Cons

def Arguments.extended (arguments : Arguments) (pieces : List Piece) : Arguments where
  flags := (flagsOf pieces).reverse ++ arguments.flags
  mapping := arguments.mapping.or (mappingsOf pieces).head?
  files := arguments.files ++ filesOf pieces

namespace Arguments

variable {arguments next result : Arguments} {piece : Piece} {rest pieces : List Piece}

end Arguments

end DexMembers.CommandLine
