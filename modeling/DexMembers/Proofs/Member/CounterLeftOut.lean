import DexMembers.Proofs.Guarded.Names
import DexMembers.Proofs.Member.Counter

/-!
# Which counter is left out

The name of a lambda body loses its first inner counter, any other method name the counter at its
end, and the name of a lambda class the counter behind its mark.  Nothing else is lost.
-/

set_option autoImplicit false

namespace DexMembers

namespace SyntheticNumber

/-! ### Method names -/

/-- What is left of a method name, said of the parts of the name. -/
inductive LeftOfMethod : List Char → List Char → Prop
  /-- The name of a lambda body loses its first inner counter. -/
  | inner {name front digits back : List Char} (body : lambdaMark <+: name)
      (first : FirstInner name front digits back) : LeftOfMethod name (front ++ back)
  | noInner {name : List Char} (body : lambdaMark <+: name)
      (none : ∀ front digits back, ¬ InnerCounter name front digits back) : LeftOfMethod name name
  /-- Any other name loses the counter at its end, if that is not the whole name. -/
  | last {front digits : List Char} (noBody : ¬ lambdaMark <+: front ++ '$' :: digits)
      (nonempty : front ≠ []) (run : isDigits digits = true) :
      LeftOfMethod (front ++ '$' :: digits) front
  | noLast {name : List Char} (noBody : ¬ lambdaMark <+: name)
      (none : ∀ front digits, front ≠ [] → isDigits digits = true →
        name ≠ front ++ '$' :: digits) : LeftOfMethod name name

theorem leftOfMethod_dropFromMethod (name : List Char) :
    LeftOfMethod name (dropFromMethod name) := by
  by_cases body : lambdaMark <+: name
  · rw [dropFromMethod_of_body body]
    rcases dropInner_cases name with ⟨front, digits, back, first, left⟩ | ⟨none, left⟩
    · rw [left]
      exact .inner body first
    · rw [left]
      exact .noInner body none
  · rw [dropFromMethod_of_noBody body]
    rcases dropEnd_cases (· ≠ []) name with ⟨front, digits, nonempty, run, rfl, left⟩ | ⟨none, left⟩
    · rw [left]
      exact .last body nonempty run
    · rw [left]
      exact .noLast body none

theorem LeftOfMethod.dropFromMethod_eq {name left : List Char} (leaves : LeftOfMethod name left) :
    dropFromMethod name = left := by
  cases leaves with
  | inner body first => rw [dropFromMethod_of_body body, first.dropInner_eq]
  | noInner body none => rw [dropFromMethod_of_body body, dropInner_eq_self none]
  | last noBody nonempty run => exact dropFromMethod_last nonempty run noBody
  | noLast noBody none => rw [dropFromMethod_of_noBody noBody, dropEnd_eq_self none]

theorem lambdaMark_prefix_dropFromMethod {name : List Char} (body : lambdaMark <+: name) :
    lambdaMark <+: dropFromMethod name := by
  rw [dropFromMethod_of_body body]
  obtain ⟨rest, rfl⟩ := body
  have mark : lambdaMark ++ rest = "lambda".toList ++ '$' :: rest := rfl
  obtain ⟨others, behind⟩ := List.head?_eq_some_iff.mp (head?_dropInner_dollar rest)
  rw [mark, dropInner_append_of_not_mem (by decide), behind]
  exact ⟨others, rfl⟩

/-- What is left of a method name is what its parts say: it is the name, or the name without one
counter, and of the name of a lambda body one again.  A search in the bytes of the name leaves the
same, and cuts the name between characters. -/
theorem dropFromMethod_exact {ε : Type} (name : String) :
    (∀ left, dropFromMethod name.toList = left ↔ LeftOfMethod name.toList left) ∧
    (lambdaMark <+: name.toList → lambdaMark <+: dropFromMethod name.toList) ∧
    LosesCounter name.toList (dropFromMethod name.toList) ∧
    (name.utf8ByteSize < 2 ^ 63 →
      (Guarded.withoutNumber name : Guarded ε String) =
        pure (String.ofList (dropFromMethod name.toList))) := by
  refine ⟨?_, lambdaMark_prefix_dropFromMethod, losesCounter_dropFromMethod _,
    Guarded.withoutNumber_eq⟩
  intro left
  constructor
  · rintro rfl
    exact leftOfMethod_dropFromMethod name.toList
  · exact LeftOfMethod.dropFromMethod_eq

/-- A digit that is not ASCII makes no counter, and of two counters the second one stays. -/
theorem dropFromMethod_exact_other_digits :
    let name := "lambda$é$٣$14$5$x"
    let left := "lambda$é$٣$5$x"
    LeftOfMethod name.toList left.toList ∧ lambdaMark <+: left.toList ∧
      LosesCounter name.toList left.toList ∧ name.utf8ByteSize < 2 ^ 63 ∧
      (Guarded.withoutNumber name : Guarded Empty String) = pure left := by
  intro name left
  obtain ⟨exact, body, loses, bytes⟩ := dropFromMethod_exact (ε := Empty) name
  have dropped : dropFromMethod name.toList = left.toList := by decide
  have short : name.utf8ByteSize < 2 ^ 63 := by decide
  have found := bytes short
  have mark := body (by decide)
  rw [dropped] at mark loses found
  rw [String.ofList_toList] at found
  exact ⟨(exact left.toList).mp dropped, mark, loses, short, found⟩

/-! ### Lambda classes -/

theorem getLast?_of_lambdaClassMark {name : List Char} (mark : lambdaClassMark <:+ name) :
    name.getLast? = some 'a' := by
  obtain ⟨before, rfl⟩ := mark
  rw [List.getLast?_append_of_ne_nil _ (by decide)]
  rfl

theorem dropFromClass_eq_self {name : List Char} (none : ∀ front digits, isDigits digits = true →
    name ≠ front ++ lambdaClassMark ++ '$' :: digits) : dropFromClass name = name := by
  apply dropEnd_eq_self
  intro before digits kept run
  obtain ⟨front, rfl⟩ := List.isSuffixOf_iff_suffix.mp kept
  exact none front digits run

theorem dropFromClass_dropFromClass (name : List Char) :
    dropFromClass (dropFromClass name) = dropFromClass name := by
  rw [dropFromClass_eq_dropEnd name]
  rcases dropEnd_cases (fun before => lambdaClassMark.isSuffixOf before) name with
    ⟨front, _, mark, _, _, left⟩ | ⟨none, left⟩
  · rw [left]
    apply dropEnd_eq_self
    intro before digits _ run
    -- the mark does not end in a digit
    have last := getLast?_of_lambdaClassMark (List.isSuffixOf_iff_suffix.mp mark)
    exact ne_append_of_last last (by decide) run
  · rw [left]
    exact left

end SyntheticNumber

open SyntheticNumber

namespace Descriptor

theorem component_withoutLambdaNumber (type : Descriptor) :
    type.withoutLambdaNumber.component = type.component.withoutLambdaNumber := by
  induction type with
  | primitive kind => rfl
  | object name => rfl
  | array element ih => exact ih

theorem arity_withoutLambdaNumber (type : Descriptor) :
    type.withoutLambdaNumber.arity = type.arity := by
  induction type with
  | primitive kind => rfl
  | object name => rfl
  | array element ih => exact congrArg (· + 1) ih

theorem withoutLambdaNumber_withoutLambdaNumber (type : Descriptor) :
    type.withoutLambdaNumber.withoutLambdaNumber = type.withoutLambdaNumber := by
  induction type with
  | primitive kind => rfl
  | object name =>
      rw [withoutLambdaNumber, withoutLambdaNumber, String.toList_ofList,
        dropFromClass_dropFromClass]
  | array element ih => exact congrArg array ih

theorem toList_numberedLambda (front digits : String) :
    (front ++ "$$Lambda$" ++ digits).toList =
      front.toList ++ lambdaClassMark ++ '$' :: digits.toList := by
  have mark : "$$Lambda$".toList = lambdaClassMark ++ ['$'] := rfl
  rw [String.toList_append, String.toList_append, mark]
  simp only [List.append_assoc, List.singleton_append]

theorem withoutLambdaNumber_of_counter (front : String) {digits : String}
    (run : isDigits digits.toList = true) :
    (object (front ++ "$$Lambda$" ++ digits)).withoutLambdaNumber =
      object (front ++ "$$Lambda") := by
  rw [withoutLambdaNumber, toList_numberedLambda, dropFromClass_of_counter run,
    String.ofList_append, String.ofList_toList]
  rfl

theorem withoutLambdaNumber_eq_self {name : String}
    (none : ∀ front digits : String, isDigits digits.toList = true →
      name ≠ front ++ "$$Lambda$" ++ digits) :
    (object name).withoutLambdaNumber = object name := by
  have kept : dropFromClass name.toList = name.toList := by
    apply dropFromClass_eq_self
    intro front digits run whole
    apply none (String.ofList front) (String.ofList digits)
    · rwa [String.toList_ofList]
    · rw [← String.toList_inj, toList_numberedLambda, String.toList_ofList, String.toList_ofList]
      exact whole
  rw [withoutLambdaNumber, kept, String.ofList_toList]

/-- A type keeps its dimensions without the counter of a lambda class, and its component too unless
that is an object `…$$Lambda$` and digits, whose name then ends in `$$Lambda`.  No counter is left
that would be left out next. -/
theorem withoutLambdaNumber_exact (type : Descriptor) :
    type.withoutLambdaNumber.arity = type.arity ∧
    (∀ front digits : String, isDigits digits.toList = true →
      type.component = object (front ++ "$$Lambda$" ++ digits) →
        type.withoutLambdaNumber.component = object (front ++ "$$Lambda")) ∧
    ((∀ front digits : String, isDigits digits.toList = true →
      type.component ≠ object (front ++ "$$Lambda$" ++ digits)) →
        type.withoutLambdaNumber.component = type.component) ∧
    type.withoutLambdaNumber.withoutLambdaNumber = type.withoutLambdaNumber := by
  rw [component_withoutLambdaNumber]
  refine ⟨type.arity_withoutLambdaNumber, ?_, ?_, type.withoutLambdaNumber_withoutLambdaNumber⟩
  · intro front digits run component
    rw [component, withoutLambdaNumber_of_counter front run]
  · intro none
    cases component : type.component with
    | primitive kind => rfl
    | object name =>
        apply withoutLambdaNumber_eq_self
        intro front digits run same
        exact none front digits run (component.trans (congrArg object same))
    | array element =>
        have scalar := type.arity_component
        rw [component] at scalar
        cases scalar

/-- The mark twice in a name, and a digit that is not ASCII behind it. -/
theorem withoutLambdaNumber_exact_mark_twice :
    let twice := array (array (object "a/B$$Lambda$$$Lambda$07"))
    let foreign := array (object "$$Lambda$٣")
    isDigits "07".toList = true ∧
      twice.component = object ("a/B$$Lambda$" ++ "$$Lambda$" ++ "07") ∧
      twice.withoutLambdaNumber.component = object "a/B$$Lambda$$$Lambda" ∧
      twice.withoutLambdaNumber.arity = 2 ∧
      foreign.withoutLambdaNumber.component = object "$$Lambda$٣" := by
  intro twice foreign
  obtain ⟨arity, counter, _, _⟩ := withoutLambdaNumber_exact twice
  obtain ⟨_, _, others, _⟩ := withoutLambdaNumber_exact foreign
  have component : twice.component = object ("a/B$$Lambda$" ++ "$$Lambda$" ++ "07") := by decide
  refine ⟨by decide, component, counter "a/B$$Lambda$" "07" (by decide) component, arity, ?_⟩
  apply others
  intro front digits run same
  have whole := congrArg String.toList (object.inj same)
  rw [toList_numberedLambda] at whole
  exact ne_append_of_last (by decide) (by decide : Char.isDigit '٣' = false) run whole

end Descriptor

end DexMembers
