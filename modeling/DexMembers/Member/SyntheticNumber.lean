import DexMembers.Descriptor.Basic

/-!
# Counters in synthetic names

Compilers number the members and classes they make up: `access$000`, `lambda$run$14$Main`,
`Main$$Lambda$26`.  The counters change from build to build, so a listing can leave them out.
A counter is a `$` and the ASCII digits after it.
-/

set_option autoImplicit false

namespace DexMembers

namespace SyntheticNumber

def isDigits (text : List Char) : Bool :=
  !text.isEmpty && text.all Char.isDigit

/-- The name without the counter at its end, unless nothing would be left. -/
def dropLast (name : List Char) : List Char :=
  match Text.splitLast? '$' name with
  | some (before, digits) => if before ≠ [] ∧ isDigits digits then before else name
  | none => name

/-- The name without the first counter that another `$` follows. -/
def dropInner : List Char → List Char
  | [] => []
  | c :: rest =>
      let after := rest.dropWhile Char.isDigit
      if c = '$' ∧ rest.takeWhile Char.isDigit ≠ [] ∧ after.head? = some '$' then after
      else c :: dropInner rest

def lambdaMark : List Char := "lambda$".toList

/-- The method name without its counter: an inner one in the name of a lambda body, otherwise one
at the end. -/
def dropFromMethod (name : List Char) : List Char :=
  if lambdaMark.isPrefixOf name then dropInner name else dropLast name

def lambdaClassMark : List Char := "$$Lambda".toList

def dropFromClass (name : List Char) : List Char :=
  match Text.splitLast? '$' name with
  | some (before, digits) =>
      if lambdaClassMark.isSuffixOf before ∧ isDigits digits then before else name
  | none => name

end SyntheticNumber

/-- The type with the counter of a lambda class left out, `Main$$Lambda$26` becoming
`Main$$Lambda`; array dimensions stay. -/
def Descriptor.withoutLambdaNumber : Descriptor → Descriptor
  | .primitive kind => .primitive kind
  | .object name => .object (String.ofList (SyntheticNumber.dropFromClass name.toList))
  | .array element => .array element.withoutLambdaNumber

end DexMembers
