import DexMembers.Proofs.Member.LineFeed
import DexMembers.Proofs.Text.Span
import Mathlib.Data.List.Basic
import Mathlib.Data.List.TakeWhile

/-!
# Lines that hide counters

What is left of a synthetic name does not depend on its counter.  So two members that differ in the
counters of their declaring types and method names have the same line once counters are hidden.
-/

set_option autoImplicit false

namespace DexMembers

namespace SyntheticNumber

variable {front first second digits back : List Char}

def NoInner (text : List Char) : Prop :=
  ∀ digits, isDigits digits = true → ¬ '$' :: digits ++ ['$'] <:+: text

theorem noInner_iff_forall_not (text : List Char) :
    NoInner text ↔ ∀ front digits back, ¬ InnerCounter text front digits back := by
  constructor
  · intro none front digits back inner
    obtain ⟨others, rfl⟩ := List.head?_eq_some_iff.mp inner.next
    refine none digits inner.run ⟨front, others, ?_⟩
    rw [inner.parts]
    simp
  · rintro none digits run ⟨front, others, whole⟩
    refine none front digits ('$' :: others) ⟨?_, run, rfl⟩
    rw [← whole]
    simp

theorem noInner_iff (text : List Char) : NoInner text ↔ dropInner text = text := by
  rw [noInner_iff_forall_not]
  refine ⟨dropInner_eq_self, ?_⟩
  intro same
  rcases dropInner_cases text with ⟨front, digits, back, first, left⟩ | ⟨none, _⟩
  · have length := congrArg List.length (left.symm.trans (same.trans first.parts))
    simp only [List.length_append, List.length_cons] at length
    omega
  · exact none

instance (text : List Char) : Decidable (NoInner text) :=
  decidable_of_iff _ (noInner_iff text).symm

/-- In front of the first inner counter there is no other one, its own dollar sign included. -/
theorem NoInner.firstInner (none : NoInner (front ++ ['$'])) (run : isDigits digits = true)
    (back : List Char) :
    FirstInner (front ++ '$' :: digits ++ '$' :: back) front digits ('$' :: back) := by
  refine ⟨⟨rfl, run, rfl⟩, ?_⟩
  intro otherFront otherDigits otherBack inner
  by_contra shorter
  obtain ⟨others, rfl⟩ := List.head?_eq_some_iff.mp inner.next
  have parts : front ++ '$' :: (digits ++ '$' :: back) =
      otherFront ++ ['$'] ++ (otherDigits ++ '$' :: others) := by simpa using inner.parts
  obtain ⟨middle, rfl⟩ : otherFront ++ ['$'] <+: front := by
    refine List.prefix_of_prefix_length_le ⟨_, parts.symm⟩ (List.prefix_append _ _) ?_
    rw [List.length_append, List.length_singleton]
    omega
  have behind : middle ++ '$' :: (digits ++ '$' :: back) = otherDigits ++ '$' :: others := by
    simpa using parts
  have counter : otherDigits ++ ['$'] <+: otherDigits ++ '$' :: others := ⟨others, by simp⟩
  have dollar : middle ++ ['$'] <+: otherDigits ++ '$' :: others := by
    rw [← behind]
    exact ⟨digits ++ '$' :: back, by simp⟩
  -- the other counter would end in front of this one, or have its dollar sign among the digits
  have inside : ¬ otherDigits ++ ['$'] <+: middle ++ ['$'] := by
    rintro ⟨after, same⟩
    refine none otherDigits inner.run ⟨otherFront, after, ?_⟩
    simp only [List.append_assoc, List.cons_append, List.nil_append] at same ⊢
    rw [same]
  rcases List.prefix_or_prefix_of_prefix counter dollar with ends | reaches
  · exact inside ends
  · rcases List.prefix_concat_iff.mp reaches with same | among
    · exact inside ⟨[], by rw [List.append_nil, same]⟩
    · have member : '$' ∈ otherDigits := among.mem (List.mem_append_right middle (by simp))
      exact not_mem_of_isDigits (by decide) inner.run member

theorem dropInner_append (none : NoInner (front ++ ['$'])) (run : isDigits digits = true)
    (back : List Char) :
    dropInner (front ++ '$' :: digits ++ '$' :: back) = front ++ '$' :: back :=
  (none.firstInner run back).dropInner_eq

theorem dropFromMethod_inner (body : lambdaMark <+: front ++ ['$'])
    (none : NoInner (front ++ ['$'])) (run : isDigits digits = true) (back : List Char) :
    dropFromMethod (front ++ '$' :: digits ++ '$' :: back) = front ++ '$' :: back := by
  have mark : lambdaMark <+: front ++ '$' :: digits ++ '$' :: back := by
    refine body.trans ⟨digits ++ '$' :: back, ?_⟩
    simp
  rw [dropFromMethod_of_body mark, dropInner_append none run]

/-- Method names that are the same, or differ in nothing but the counter that is left out of
them. -/
inductive SameMethodName : List Char → List Char → Prop
  | same (name : List Char) : SameMethodName name name
  /-- Two counters at the end of a name, which with neither is that of a lambda body. -/
  | last (front first second : List Char) (nonempty : front ≠ [])
      (firstRun : isDigits first = true) (secondRun : isDigits second = true)
      (firstNoBody : ¬ lambdaMark <+: front ++ '$' :: first)
      (secondNoBody : ¬ lambdaMark <+: front ++ '$' :: second) :
      SameMethodName (front ++ '$' :: first) (front ++ '$' :: second)
  /-- Two counters inside the name of a lambda body, where no other one comes first. -/
  | inner (front first second back : List Char)
      (body : front = "lambda".toList ∨ lambdaMark <+: front)
      (firstRun : isDigits first = true) (secondRun : isDigits second = true)
      (none : NoInner (front ++ ['$'])) :
      SameMethodName (front ++ '$' :: first ++ '$' :: back) (front ++ '$' :: second ++ '$' :: back)

theorem SameMethodName.dropFromMethod_eq {name other : List Char}
    (same : SameMethodName name other) : dropFromMethod name = dropFromMethod other := by
  cases same with
  | same => rfl
  | last front first second nonempty firstRun secondRun firstNoBody secondNoBody =>
      rw [dropFromMethod_last nonempty firstRun firstNoBody,
        dropFromMethod_last nonempty secondRun secondNoBody]
  | inner front first second back body firstRun secondRun none =>
      have mark : lambdaMark <+: front ++ ['$'] := by
        rcases body with rfl | longer
        · exact List.prefix_refl _
        · exact longer.trans (List.prefix_append _ _)
      rw [dropFromMethod_inner mark none firstRun, dropFromMethod_inner mark none secondRun]

end SyntheticNumber

open SyntheticNumber

namespace Descriptor

theorem withoutLambdaNumber_nested (type : Descriptor) (dimensions : Nat) :
    (type.nested dimensions).withoutLambdaNumber = type.withoutLambdaNumber.nested dimensions := by
  induction dimensions with
  | zero => rfl
  | succ dimensions ih => rw [nested, withoutLambdaNumber, ih, nested]

/-- Types that are the same, or of as many dimensions over a lambda class that differs in nothing
but its counter. -/
inductive SameLambda : Descriptor → Descriptor → Prop
  | same (type : Descriptor) : SameLambda type type
  | counter (front first second : List Char) (dimensions : Nat)
      (firstRun : isDigits first = true) (secondRun : isDigits second = true) :
      SameLambda
        ((object (String.ofList (front ++ lambdaClassMark ++ '$' :: first))).nested dimensions)
        ((object (String.ofList (front ++ lambdaClassMark ++ '$' :: second))).nested dimensions)

theorem SameLambda.withoutLambdaNumber_eq {type other : Descriptor}
    (same : SameLambda type other) : type.withoutLambdaNumber = other.withoutLambdaNumber := by
  cases same with
  | same => rfl
  | counter front first second dimensions firstRun secondRun =>
      simp only [withoutLambdaNumber_nested, withoutLambdaNumber, String.toList_ofList,
        dropFromClass_of_counter firstRun, dropFromClass_of_counter secondRun]

end Descriptor

/-- Methods that differ at most in the counters of the declaring type and the name. -/
structure MethodRef.SameButCounters (method other : MethodRef) : Prop where
  declaringType : method.declaringType.SameLambda other.declaringType
  name : SameMethodName method.name.toList other.name.toList
  parameterTypes : method.parameterTypes = other.parameterTypes
  returnType : method.returnType = other.returnType

structure FieldRef.SameButCounters (field other : FieldRef) : Prop where
  declaringType : field.declaringType.SameLambda other.declaringType
  name : field.name = other.name
  fieldType : field.fieldType = other.fieldType

theorem Descriptor.SameLambda.declaringName_eq {type other : Descriptor}
    (same : type.SameLambda other) : declaringName true type = declaringName true other := by
  simp only [declaringName, if_true, same.withoutLambdaNumber_eq]

theorem MethodRef.SameButCounters.line_eq {method other : MethodRef}
    (same : method.SameButCounters other) : method.line true = other.line true := by
  simp only [MethodRef.line, if_true, same.declaringType.declaringName_eq,
    same.name.dropFromMethod_eq, same.parameterTypes]

theorem FieldRef.SameButCounters.line_eq {field other : FieldRef}
    (same : field.SameButCounters other) : field.line true = other.line true := by
  simp only [FieldRef.line, same.declaringType.declaringName_eq, same.name, same.fieldType]

end DexMembers
