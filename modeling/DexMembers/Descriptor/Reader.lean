import DexMembers.Descriptor.Basic
import DexMembers.Text.Quoted

/-!
# Reading descriptors

`Descriptor.read` accepts exactly the written form of a type: at most 255 opening brackets, then a
primitive letter or `L`, a nonempty name without `;`, and `;`.  Nothing may follow.
-/

set_option autoImplicit false

namespace DexMembers

inductive DescriptorError where
  /-- Past its brackets the token is one character that stands for no primitive. -/
  | unknownPrimitive (code : Char)
  /-- The token is empty, has too many dimensions, or is broken in another way. -/
  | malformed (token : String)
deriving DecidableEq, Repr

def DescriptorError.message : DescriptorError → String
  | unknownPrimitive code => "Unknown type: " ++ String.singleton code
  | malformed token => "Malformed type descriptor: " ++ Text.quoted token

namespace Descriptor

def maxDimensions : Nat := 255

def ofObjectChars? (text : List Char) : Option Descriptor :=
  let name := text.takeWhile (· ≠ ';')
  if name ≠ [] ∧ text.dropWhile (· ≠ ';') = [';'] then some (object (String.ofList name)) else none

def ofChars? : List Char → Option Descriptor
  | [] => none
  | c :: rest =>
      if c = '[' then (ofChars? rest).map array
      else if c = 'L' then ofObjectChars? rest
      else if rest = [] then (Primitive.ofCode? c).map primitive
      else none

def failure (token : String) : DescriptorError :=
  match token.toList.dropWhile (· = '[') with
  | [c] => if c = 'L' then .malformed token else .unknownPrimitive c
  | _ => .malformed token

def read (token : String) : Except DescriptorError Descriptor :=
  if maxDimensions < (token.toList.takeWhile (· = '[')).length then .error (.malformed token)
  else
    match ofChars? token.toList with
    | some descriptor => .ok descriptor
    | none => .error (failure token)

end Descriptor

end DexMembers
