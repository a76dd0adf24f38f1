import DexMembers.Text.Split

/-!
# Type descriptors

A type as a dex image names it: one of nine primitives, an object by its slash-separated name, or
an array of another type.  This module holds the type, its written form (`[Ljava/lang/String;`)
and the two names a reader sees: the qualified one (`java.lang.String[]`) and the simple one
(`String[]`).
-/

set_option autoImplicit false

namespace DexMembers

inductive Primitive where
  | byte
  | char
  | double
  | float
  | int
  | long
  | short
  | void
  | boolean
deriving DecidableEq, Repr

namespace Primitive

def code : Primitive → Char
  | byte => 'B'
  | char => 'C'
  | double => 'D'
  | float => 'F'
  | int => 'I'
  | long => 'J'
  | short => 'S'
  | void => 'V'
  | boolean => 'Z'

def keyword : Primitive → String
  | byte => "byte"
  | char => "char"
  | double => "double"
  | float => "float"
  | int => "int"
  | long => "long"
  | short => "short"
  | void => "void"
  | boolean => "boolean"

def all : List Primitive :=
  [byte, char, double, float, int, long, short, void, boolean]

def ofCode? (letter : Char) : Option Primitive :=
  all.find? fun p => p.code = letter

def ofKeyword? (word : String) : Option Primitive :=
  all.find? fun p => p.keyword = word

@[simp] theorem ofCode?_code (p : Primitive) : ofCode? p.code = some p := by
  cases p <;> rfl

@[simp] theorem ofKeyword?_keyword (p : Primitive) : ofKeyword? p.keyword = some p := by
  cases p <;> rfl

theorem ofCode?_eq_some_iff {letter : Char} {p : Primitive} :
    ofCode? letter = some p ↔ letter = p.code := by
  constructor
  · intro found
    have same := List.find?_some found
    exact (of_decide_eq_true same).symm
  · rintro rfl
    exact ofCode?_code p

theorem ofKeyword?_eq_some_iff {word : String} {p : Primitive} :
    ofKeyword? word = some p ↔ word = p.keyword := by
  constructor
  · intro found
    have same := List.find?_some found
    exact (of_decide_eq_true same).symm
  · rintro rfl
    exact ofKeyword?_keyword p

end Primitive

inductive Descriptor where
  | primitive (kind : Primitive)
  /-- An object type, by its slash-separated name such as `java/lang/String`. -/
  | object (name : String)
  | array (element : Descriptor)
deriving DecidableEq, Repr

namespace Descriptor

/-- The written form: a letter for a primitive, `L…;` around an object's name, and one `[` per
array dimension. -/
def text : Descriptor → String
  | primitive kind => String.singleton kind.code
  | object name => "L" ++ name ++ ";"
  | array element => "[" ++ element.text

def dotted (name : String) : String :=
  String.ofList (name.toList.map fun c => if c = '/' then '.' else c)

def lastSegment (name : String) : String :=
  match Text.splitLast? '/' name.toList with
  | some (_, segment) => String.ofList segment
  | none => name

def qualifiedName : Descriptor → String
  | primitive kind => kind.keyword
  | object name => dotted name
  | array element => element.qualifiedName ++ "[]"

def simpleName : Descriptor → String
  | primitive kind => kind.keyword
  | object name => lastSegment name
  | array element => element.simpleName ++ "[]"

def component : Descriptor → Descriptor
  | array element => element.component
  | scalar => scalar

def arity : Descriptor → Nat
  | array element => element.arity + 1
  | _ => 0

/-- The array of `dimensions` further dimensions over the type. -/
def nested (element : Descriptor) : Nat → Descriptor
  | 0 => element
  | dimensions + 1 => array (element.nested dimensions)

theorem nested_component (type : Descriptor) : type.component.nested type.arity = type := by
  induction type with
  | primitive kind => rfl
  | object name => rfl
  | array element ih => simp only [component, arity, nested, ih]

theorem arity_component (type : Descriptor) : type.component.arity = 0 := by
  induction type with
  | primitive kind => rfl
  | object name => rfl
  | array element ih => exact ih

theorem component_of_arity_eq_zero {type : Descriptor} (scalar : type.arity = 0) :
    type.component = type := by
  cases type with
  | primitive kind => rfl
  | object name => rfl
  | array element => cases scalar

@[simp] theorem component_nested (type : Descriptor) (dimensions : Nat) :
    (type.nested dimensions).component = type.component := by
  induction dimensions with
  | zero => rfl
  | succ dimensions ih => rw [nested, component, ih]

@[simp] theorem arity_nested (type : Descriptor) (dimensions : Nat) :
    (type.nested dimensions).arity = dimensions + type.arity := by
  induction dimensions with
  | zero => rw [nested, Nat.zero_add]
  | succ dimensions ih => rw [nested, arity, ih, Nat.add_right_comm]

end Descriptor

end DexMembers
