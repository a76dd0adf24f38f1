import DexMembers.Descriptor.Basic

/-!
# Names with and without a package

The simple name of a type is the end of its qualified one: the part behind the last slash has no
slash that could become a dot.  What the qualified name has in front is the package with a dot
behind it, or nothing if there is no package.  Brackets are the same in both.
-/

set_option autoImplicit false

namespace DexMembers.Descriptor

def brackets (dimensions : Nat) : String :=
  String.join (List.replicate dimensions "[]")

theorem brackets_succ (dimensions : Nat) :
    brackets (dimensions + 1) = brackets dimensions ++ "[]" := by
  rw [brackets, List.replicate_succ', String.join_append, String.join_cons, String.join_nil,
    String.append_empty, brackets]

theorem qualifiedName_eq_component (type : Descriptor) :
    type.qualifiedName = type.component.qualifiedName ++ brackets type.arity := by
  induction type with
  | primitive kind => exact String.append_empty.symm
  | object name => exact String.append_empty.symm
  | array element ih => rw [qualifiedName, ih, component, arity, brackets_succ, String.append_assoc]

theorem simpleName_eq_component (type : Descriptor) :
    type.simpleName = type.component.simpleName ++ brackets type.arity := by
  induction type with
  | primitive kind => exact String.append_empty.symm
  | object name => exact String.append_empty.symm
  | array element ih => rw [simpleName, ih, component, arity, brackets_succ, String.append_assoc]

/-! ### The last segment -/

theorem dotted_append (first second : String) :
    dotted (first ++ second) = dotted first ++ dotted second := by
  rw [dotted, String.toList_append, List.map_append, String.ofList_append, dotted, dotted]

theorem dotted_of_no_slash {name : String} (flat : '/' ∉ name.toList) : dotted name = name := by
  have kept : ∀ c ∈ name.toList, (if c = '/' then '.' else c) = id c := by
    intro c member
    have other : c ≠ '/' := fun slash => flat (slash ▸ member)
    exact if_neg other
  rw [dotted, List.map_congr_left kept, List.map_id, String.ofList_toList]

theorem lastSegment_of_no_slash {name : String} (flat : '/' ∉ name.toList) :
    lastSegment name = name := by
  rw [lastSegment, Text.splitLast?_eq_none_iff.mpr flat]

theorem toList_slashed (front segment : String) :
    (front ++ "/" ++ segment).toList = front.toList ++ '/' :: segment.toList := by
  have slash : "/".toList = ['/'] := rfl
  rw [String.toList_append, String.toList_append, slash, List.append_assoc, List.singleton_append]

theorem lastSegment_append {front segment : String} (last : '/' ∉ segment.toList) :
    lastSegment (front ++ "/" ++ segment) = segment := by
  rw [lastSegment, toList_slashed, Text.splitLast?_append last]
  exact String.ofList_toList

theorem exists_last_slash {name : String} (slash : '/' ∈ name.toList) :
    ∃ front segment : String, name = front ++ "/" ++ segment ∧ '/' ∉ segment.toList := by
  cases cut : Text.splitLast? '/' name.toList with
  | none => exact absurd slash (Text.splitLast?_eq_none_iff.mp cut)
  | some parts =>
      obtain ⟨whole, last⟩ := Text.splitLast?_eq_some_iff.mp cut
      refine ⟨String.ofList parts.1, String.ofList parts.2, ?_, by rwa [String.toList_ofList]⟩
      rw [← String.toList_inj, whole, toList_slashed, String.toList_ofList, String.toList_ofList]

/-! ### Both names -/

variable {type : Descriptor}

/-- The type is in no package: it is a primitive, an object whose name has no slash, or an array of
such a type. -/
def Unpackaged (type : Descriptor) : Prop :=
  ∀ name, type.component = object name → '/' ∉ name.toList

theorem unpackaged_or_packaged (type : Descriptor) :
    type.Unpackaged ∨ ∃ package segment : String,
      type.component = object (package ++ "/" ++ segment) ∧ '/' ∉ segment.toList := by
  rw [Unpackaged]
  cases type.component with
  | primitive kind => exact Or.inl fun name same => nomatch same
  | object name =>
      by_cases slash : '/' ∈ name.toList
      · obtain ⟨package, segment, rfl, last⟩ := exists_last_slash slash
        exact Or.inr ⟨package, segment, rfl, last⟩
      · refine Or.inl fun other same => ?_
        cases same
        exact slash
  | array element => exact Or.inl fun name same => nomatch same

theorem Unpackaged.qualifiedName_eq (unpackaged : type.Unpackaged) :
    type.qualifiedName = type.simpleName := by
  rw [qualifiedName_eq_component, simpleName_eq_component]
  congr 1
  cases component : type.component with
  | primitive kind => rfl
  | object name =>
      have flat := unpackaged name component
      rw [qualifiedName, simpleName, dotted_of_no_slash flat, lastSegment_of_no_slash flat]
  | array element =>
      -- the component of a type has no dimensions left
      have scalar := type.arity_component
      rw [component] at scalar
      cases scalar

theorem simpleName_of_package {front segment : String}
    (component : type.component = object (front ++ "/" ++ segment))
    (last : '/' ∉ segment.toList) : type.simpleName = segment ++ brackets type.arity := by
  rw [simpleName_eq_component, component, simpleName, lastSegment_append last]

theorem qualifiedName_of_package {front segment : String}
    (component : type.component = object (front ++ "/" ++ segment))
    (last : '/' ∉ segment.toList) :
    type.qualifiedName = dotted front ++ "." ++ type.simpleName := by
  have dot : dotted "/" = "." := rfl
  rw [simpleName_of_package component last, qualifiedName_eq_component, component, qualifiedName,
    dotted_append, dotted_append, dot, dotted_of_no_slash last, String.append_assoc]

/-- The qualified name of a type is its simple name behind a prefix that is empty or ends in a dot,
and empty exactly if the type is in no package.  Up to the last slash of the object's name the
prefix is the dotted name, and what follows that slash is the simple name.  Either name is that of
the component with a pair of brackets per dimension behind it. -/
theorem qualifiedName_ends_in_simpleName (type : Descriptor) :
    (∃ front, type.qualifiedName = front ++ type.simpleName ∧
      (front = "" ∨ front.toList.getLast? = some '.') ∧
      (front = "" ↔ ∀ name, type.component = object name → '/' ∉ name.toList)) ∧
    (∀ package segment : String, type.component = object (package ++ "/" ++ segment) →
      '/' ∉ segment.toList →
        type.simpleName = segment ++ brackets type.arity ∧
        type.qualifiedName = dotted package ++ "." ++ type.simpleName) ∧
    type.qualifiedName = type.component.qualifiedName ++ brackets type.arity ∧
    type.simpleName = type.component.simpleName ++ brackets type.arity := by
  refine ⟨?_, ?_, type.qualifiedName_eq_component, type.simpleName_eq_component⟩
  · rcases type.unpackaged_or_packaged with unpackaged | ⟨package, segment, component, last⟩
    · refine ⟨"", ?_, Or.inl rfl, iff_of_true rfl unpackaged⟩
      rw [unpackaged.qualifiedName_eq, String.empty_append]
    · have ends : (dotted package ++ ".").toList.getLast? = some '.' := by
        rw [String.toList_append]
        exact List.getLast?_concat
      have slash : '/' ∈ (package ++ "/" ++ segment).toList := by simp
      -- the dot in place of the last slash is there also if the package has no characters
      refine ⟨dotted package ++ ".", qualifiedName_of_package component last, Or.inr ends,
        iff_of_false ?_ fun unpackaged => unpackaged _ component slash⟩
      intro empty
      rw [empty] at ends
      cases ends
  · intro package segment component last
    exact ⟨simpleName_of_package component last, qualifiedName_of_package component last⟩

/-- A package with a slash in front and two in a row, and a name that ends in a slash: its segment
is empty. -/
theorem qualifiedName_ends_in_simpleName_empty_segments :
    let inner := array (array (object "/a//B$C"))
    let cut := object "a/"
    (inner.simpleName = "B$C" ++ brackets inner.arity ∧
      inner.qualifiedName = dotted "/a/" ++ "." ++ inner.simpleName) ∧
    inner.qualifiedName = ".a..B$C[][]" ∧
    (cut.simpleName = "" ++ brackets cut.arity ∧
      cut.qualifiedName = dotted "a" ++ "." ++ cut.simpleName) ∧
    cut.qualifiedName = "a." := by
  intro inner cut
  obtain ⟨_, innerNames, _⟩ := qualifiedName_ends_in_simpleName inner
  obtain ⟨_, cutNames, _⟩ := qualifiedName_ends_in_simpleName cut
  exact ⟨innerNames "/a/" "B$C" rfl (by decide), by decide, cutNames "a" "" rfl (by decide),
    by decide⟩

end DexMembers.Descriptor
