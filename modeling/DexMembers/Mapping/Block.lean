import DexMembers.Descriptor.Basic

/-!
# The text of a mapping file

A mapping file is a row of blocks, one per class: the line of the class, then an indented line per
member.  Types are written by their qualified names, and all names are given with slashes between
the packages.
-/

set_option autoImplicit false

namespace DexMembers

inductive MemberRenaming where
  | field (type : Descriptor) (original renamed : String)
  /-- A method, perhaps with the lines it now stands on, and with the line or lines it stood on. -/
  | method (newLines : Option (Nat × Nat)) (returnType : Descriptor)
      (parameterTypes : List Descriptor) (original renamed : String)
      (oldLines : Option (Nat × Option Nat))
deriving DecidableEq, Repr

structure ClassBlock where
  original : String
  renamed : String
  members : List MemberRenaming
deriving DecidableEq, Repr

namespace MemberRenaming

def newLinesText : Option (Nat × Nat) → String
  | some (first, last) => first.repr ++ ":" ++ last.repr ++ ":"
  | none => ""

def oldLinesText : Option (Nat × Option Nat) → String
  | some (first, some last) => ":" ++ first.repr ++ ":" ++ last.repr
  | some (first, none) => ":" ++ first.repr
  | none => ""

def text : MemberRenaming → String
  | field type original renamed =>
      "    " ++ type.qualifiedName ++ " " ++ original ++ " -> " ++ renamed ++ "\n"
  | method newLines returnType parameterTypes original renamed oldLines =>
      "    " ++ newLinesText newLines ++ returnType.qualifiedName ++ " " ++ original ++ "(" ++
        ",".intercalate (parameterTypes.map Descriptor.qualifiedName) ++ ")" ++
        oldLinesText oldLines ++ " -> " ++ renamed ++ "\n"

end MemberRenaming

namespace ClassBlock

def text (block : ClassBlock) : String :=
  Descriptor.dotted block.original ++ " -> " ++ Descriptor.dotted block.renamed ++ ":\n" ++
    String.join (block.members.map MemberRenaming.text)

end ClassBlock

def Mapping.textOf (blocks : List ClassBlock) : String :=
  String.join (blocks.map ClassBlock.text)

end DexMembers
