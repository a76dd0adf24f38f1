import DexMembers.Descriptor.Basic

/-!
# Lines of a mapping file

A class line reads `com.example.Point -> a.b:`.  A member line is indented and reads
`int x -> c` for a field and `1:4:void move(int,int):12:15 -> d` for a method, where the line
numbers on either side may be missing.  Types are written with dots, and `[]` per dimension.
-/

set_option autoImplicit false

namespace DexMembers

/-- Membership in the Unicode property White_Space, which is larger than that of
`Char.isWhitespace`: the latter knows ASCII only. -/
def Text.isBlank (c : Char) : Bool :=
  let code := c.toNat
  (9 ≤ code && code ≤ 13) || code == 0x20 || code == 0x85 || code == 0xA0 || code == 0x1680 ||
    (0x2000 ≤ code && code ≤ 0x200A) || code == 0x2028 || code == 0x2029 || code == 0x202F ||
    code == 0x205F || code == 0x3000

inductive LineRole where
  /-- Blank, or a comment. -/
  | nothing
  | typeLine
  | memberLine
deriving DecidableEq, Repr

def LineRole.of (line : List Char) : LineRole :=
  match line.dropWhile Text.isBlank with
  | [] => .nothing
  | c :: _ =>
      if c = '#' then .nothing
      else if line.takeWhile Text.isBlank = [] then .typeLine
      else .memberLine

/-- The type that a written name stands for: `java.lang.String[]` is an array of objects, `int` a
primitive.  Brackets at the end count in pairs, whatever their order. -/
def Descriptor.ofWritten (written : List Char) : Descriptor :=
  let base := Text.trimEnd (fun c => c = '[' || c = ']') written
  let scalar :=
    match Primitive.ofKeyword? (String.ofList base) with
    | some kind => primitive kind
    | none => object (String.ofList (base.map fun c => if c = '.' then '/' else c))
  scalar.nested ((written.length - base.length) / 2)

structure TypeLine where
  original : List Char
  renamed : List Char
deriving DecidableEq, Repr

def arrow : List Char := " -> ".toList

def TypeLine.read? (line : List Char) : Option TypeLine :=
  match line.getLast? with
  | some ':' =>
      match Text.splitFirst? arrow line.dropLast with
      | some (original, renamed) =>
          if original ≠ [] ∧ renamed ≠ [] then some { original, renamed } else none
      | none => none
  | _ => none

structure MemberLine where
  type : List Char
  original : List Char
  parameters : Option (List Char)
  renamed : List Char
deriving DecidableEq, Repr

namespace MemberLine

def afterDigits? (text : List Char) : Option (List Char) :=
  if text.takeWhile Char.isDigit = [] then none else some (text.dropWhile Char.isDigit)

def afterChar? (c : Char) : List Char → Option (List Char)
  | [] => none
  | first :: rest => if first = c then some rest else none

def afterText? : List Char → List Char → Option (List Char)
  | [], text => some text
  | c :: expected, text => (afterChar? c text).bind (afterText? expected)

/-- The rest after `a:b:`, or everything if the text does not start so. -/
def skipRange (text : List Char) : List Char :=
  let after := do
    let text ← afterDigits? text
    let text ← afterChar? ':' text
    let text ← afterDigits? text
    afterChar? ':' text
  after.getD text

/-- The rest after `:a` or `:a:b`, or everything if the text does not start so. -/
def skipLineNumbers (text : List Char) : List Char :=
  let number (text : List Char) := (afterChar? ':' text).bind afterDigits?
  match number text with
  | none => text
  | some rest => (number rest).getD rest

/-- What stands between the parentheses that the text starts with, and what follows; a text that
does not start so, or does not close them, has no parameters. -/
def takeParameters : List Char → Option (List Char) × List Char
  | [] => (none, [])
  | c :: rest =>
      if c = '(' then
        match rest.dropWhile (· ≠ ')') with
        | _ :: after => (some (rest.takeWhile (· ≠ ')')), after)
        | [] => (none, c :: rest)
      else (none, c :: rest)

def isIndent (c : Char) : Bool :=
  c = ' ' || c = '\t'

def isNameChar (c : Char) : Bool :=
  c ≠ ' ' && c ≠ '(' && c ≠ ':'

/-- The parts of a member line.  Text after the new name is ignored. -/
def read? (line : List Char) : Option MemberLine := do
  let text := line.dropWhile isIndent
  if line.takeWhile isIndent = [] then none
  let text := skipRange text
  let type := text.takeWhile (· ≠ ' ')
  if type = [] then none
  let text ← afterChar? ' ' (text.dropWhile (· ≠ ' '))
  let original := text.takeWhile isNameChar
  if original = [] then none
  let (parameters, text) := takeParameters (text.dropWhile isNameChar)
  let text ← afterText? arrow (skipLineNumbers text)
  let renamed := text.takeWhile fun c => !Text.isBlank c
  if renamed = [] then none
  return { type, original, parameters, renamed }

end MemberLine

end DexMembers
