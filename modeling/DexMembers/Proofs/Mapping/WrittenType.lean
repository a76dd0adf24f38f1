import DexMembers.Mapping.Line

/-!
# Types as source text writes them

A type written by its qualified name is read back from it, unless its object name is one that the
written form cannot tell: a keyword, a name with dots, or one that ends in a bracket.  Whatever is
read can be told again, so no other name is read back.
-/

set_option autoImplicit false

namespace DexMembers

namespace Descriptor

/-- The object that the type names, if it names one, can be told from its written name. -/
def HasTellingName : Descriptor → Prop
  | primitive _ => True
  | object name => Primitive.ofKeyword? name = none ∧ '.' ∉ name.toList ∧
      ∀ c, name.toList.getLast? = some c → c ≠ '[' ∧ c ≠ ']'
  | array element => element.HasTellingName

instance decidableHasTellingName : (type : Descriptor) → Decidable type.HasTellingName
  | primitive _ => isTrue trivial
  | object name =>
      decidable_of_iff (Primitive.ofKeyword? name = none ∧ '.' ∉ name.toList ∧
          (name.toList.getLast?.all fun c => c ≠ '[' ∧ c ≠ ']') = true) (by
        simp only [HasTellingName, Option.all_eq_true, decide_eq_true_eq])
  | array element => decidableHasTellingName element

theorem ofWritten_append_brackets (written : List Char) :
    ofWritten (written ++ ['[', ']']) = array (ofWritten written) := by
  have base : Text.trimEnd (fun c => c = '[' || c = ']') (written ++ ['[', ']']) =
      Text.trimEnd (fun c => c = '[' || c = ']') written := by
    simp [Text.trimEnd]
  have shorter : (Text.trimEnd (fun c => c = '[' || c = ']') written).length ≤ written.length := by
    have := (List.dropWhile_sublist (fun c => c = '[' || c = ']') (l := written.reverse)).length_le
    simpa [Text.trimEnd] using this
  have dimensions :
      ((written ++ ['[', ']']).length -
        (Text.trimEnd (fun c => c = '[' || c = ']') written).length) / 2 =
      (written.length - (Text.trimEnd (fun c => c = '[' || c = ']') written).length) / 2 + 1 := by
    rw [List.length_append, List.length_cons, List.length_cons, List.length_nil]
    omega
  simp only [ofWritten, base, dimensions, nested]

theorem ofWritten_of_no_brackets {written : List Char}
    (plain : ∀ c, written.getLast? = some c → c ≠ '[' ∧ c ≠ ']') :
    ofWritten written =
      match Primitive.ofKeyword? (String.ofList written) with
      | some kind => primitive kind
      | none => object (String.ofList (written.map fun c => if c = '.' then '/' else c)) := by
  have base : Text.trimEnd (fun c => c = '[' || c = ']') written = written := by
    have stop : ∀ c, written.getLast? = some c → (decide (c = '[') || decide (c = ']')) = false := by
      intro c last
      simpa using plain c last
    have inside : ∀ c ∈ ([] : List Char), (decide (c = '[') || decide (c = ']')) = true := by simp
    simpa using Text.trimEnd_append inside stop
  rw [ofWritten, base, Nat.sub_self, Nat.zero_div]
  cases Primitive.ofKeyword? (String.ofList written) <;> rfl

theorem ofWritten_keyword (kind : Primitive) : ofWritten kind.keyword.toList = primitive kind := by
  cases kind <;> rfl

theorem toList_dotted (name : String) :
    (dotted name).toList = name.toList.map fun c => if c = '/' then '.' else c :=
  String.toList_ofList

theorem map_slash_dotted {name : List Char} (dotless : '.' ∉ name) :
    (name.map fun c => if c = '/' then '.' else c).map (fun c => if c = '.' then '/' else c) =
      name := by
  have same : ∀ c ∈ name, ((fun c => if c = '.' then '/' else c) ∘
      fun c => if c = '/' then '.' else c) c = id c := by
    intro c member
    by_cases slash : c = '/'
    · simp [slash]
    · have noDot : c ≠ '.' := fun dot => dotless (dot ▸ member)
      simp [slash, noDot]
  rw [List.map_map, List.map_congr_left same, List.map_id]

/-- No keyword has the character that is put in, so no other name becomes one. -/
theorem ofKeyword?_replace {old new : Char} (foreign : ∀ kind : Primitive, new ∉ kind.keyword.toList)
    {name : List Char} (unknown : Primitive.ofKeyword? (String.ofList name) = none) :
    Primitive.ofKeyword? (String.ofList (name.map fun c => if c = old then new else c)) = none := by
  by_cases present : old ∈ name
  · cases known : Primitive.ofKeyword?
        (String.ofList (name.map fun c => if c = old then new else c)) with
    | none => rfl
    | some kind =>
        have keyword := Primitive.ofKeyword?_eq_some_iff.mp known
        have inKeyword : new ∈ kind.keyword.toList := by
          rw [← keyword, String.toList_ofList]
          exact List.mem_map.mpr ⟨old, present, if_pos rfl⟩
        exact absurd inKeyword (foreign kind)
  · have kept : ∀ c ∈ name, (if c = old then new else c) = id c := by
      intro c member
      have other : c ≠ old := fun same => present (same ▸ member)
      exact if_neg other
    rw [List.map_congr_left kept, List.map_id, unknown]

theorem ofKeyword?_dotted {name : String} (unknown : Primitive.ofKeyword? name = none) :
    Primitive.ofKeyword? (dotted name) = none := by
  have foreign : ∀ kind : Primitive, '.' ∉ kind.keyword.toList := by
    intro kind
    cases kind <;> decide
  apply ofKeyword?_replace foreign
  rw [String.ofList_toList, unknown]

theorem ofWritten_dotted {name : String} (telling : (object name).HasTellingName) :
    ofWritten (dotted name).toList = object name := by
  obtain ⟨unknown, dotless, last⟩ := telling
  rw [ofWritten_of_no_brackets, String.ofList_toList, ofKeyword?_dotted unknown, toList_dotted,
    map_slash_dotted dotless, String.ofList_toList]
  intro c final
  rw [toList_dotted, List.getLast?_map] at final
  obtain ⟨original, ends, rfl⟩ := Option.map_eq_some_iff.mp final
  by_cases slash : original = '/'
  · simp [slash]
  · simpa [slash] using last original ends

theorem ofWritten_qualifiedName {type : Descriptor} (telling : type.HasTellingName) :
    ofWritten type.qualifiedName.toList = type := by
  induction type with
  | primitive kind => exact ofWritten_keyword kind
  | object name => exact ofWritten_dotted telling
  | array element ih =>
      have brackets : "[]".toList = ['[', ']'] := rfl
      rw [qualifiedName, String.toList_append, brackets, ofWritten_append_brackets, ih telling]

/-! ### Which types can be told -/

theorem hasTellingName_component (type : Descriptor) :
    type.component.HasTellingName ↔ type.HasTellingName := by
  induction type with
  | primitive kind => rfl
  | object name => rfl
  | array element ih => exact ih

theorem hasTellingName_nested (type : Descriptor) (dimensions : Nat) :
    (type.nested dimensions).HasTellingName ↔ type.HasTellingName := by
  rw [← hasTellingName_component, component_nested, hasTellingName_component]

theorem hasTellingName_slashed {name : List Char}
    (unknown : Primitive.ofKeyword? (String.ofList name) = none)
    (plain : ∀ c, name.getLast? = some c → c ≠ '[' ∧ c ≠ ']') :
    (object (String.ofList (name.map fun c => if c = '.' then '/' else c))).HasTellingName := by
  have foreign : ∀ kind : Primitive, '/' ∉ kind.keyword.toList := by
    intro kind
    cases kind <;> decide
  refine ⟨ofKeyword?_replace foreign unknown, ?_, ?_⟩
  · rw [String.toList_ofList, List.mem_map]
    rintro ⟨c, _, dot⟩
    by_cases same : c = '.'
    · simp [same] at dot
    · exact same ((if_neg same).symm.trans dot)
  · intro c last
    rw [String.toList_ofList, List.getLast?_map] at last
    obtain ⟨original, ends, rfl⟩ := Option.map_eq_some_iff.mp last
    by_cases dot : original = '.'
    · simp [dot]
    · simpa [dot] using plain original ends

/-- Whatever is written, it is read as a type that can be told from its name. -/
theorem hasTellingName_ofWritten (written : List Char) : (ofWritten written).HasTellingName := by
  have plain : ∀ c, (Text.trimEnd (fun c => c = '[' || c = ']') written).getLast? = some c →
      c ≠ '[' ∧ c ≠ ']' := by
    intro c last
    simpa using Text.not_drop_of_getLast?_trimEnd last
  rw [ofWritten, hasTellingName_nested]
  split
  · trivial
  · rename_i unknown
    exact hasTellingName_slashed unknown plain

/-- A type is read back from its qualified name if and only if its component is a primitive, or an
object whose name is no keyword, has no dot and does not end in a bracket.  Two such types of one
qualified name are the same. -/
theorem ofWritten_qualifiedName_eq_iff_telling :
    (∀ type : Descriptor,
      ofWritten type.qualifiedName.toList = type ↔ type.component.HasTellingName) ∧
    ∀ first second : Descriptor,
      first.component.HasTellingName → second.component.HasTellingName →
        first.qualifiedName = second.qualifiedName → first = second := by
  constructor
  · intro type
    rw [hasTellingName_component]
    refine ⟨?_, ofWritten_qualifiedName⟩
    intro same
    rw [← same]
    exact hasTellingName_ofWritten _
  · intro first second firstTelling secondTelling names
    rw [hasTellingName_component] at firstTelling secondTelling
    calc first = ofWritten first.qualifiedName.toList := (ofWritten_qualifiedName firstTelling).symm
      _ = ofWritten second.qualifiedName.toList := by rw [names]
      _ = second := ofWritten_qualifiedName secondTelling

/-- Brackets inside a name are no dimensions, nor is a name with a keyword in it a keyword; and an
object of the name `int` is taken for the primitive. -/
theorem ofWritten_qualifiedName_eq_iff_telling_brackets_inside :
    let inside := array (array (object "int/[]b"))
    let outside := array (object "int")
    inside.qualifiedName = "int.[]b[][]" ∧ ofWritten inside.qualifiedName.toList = inside ∧
      outside.qualifiedName = "int[]" ∧ ofWritten outside.qualifiedName.toList ≠ outside ∧
      (∀ type : Descriptor, type.component.HasTellingName → type.qualifiedName = "int.[]b[][]" →
        type = inside) := by
  intro inside outside
  obtain ⟨readBack, apart⟩ := ofWritten_qualifiedName_eq_iff_telling
  have telling : inside.component.HasTellingName := by decide
  have name : inside.qualifiedName = "int.[]b[][]" := by decide
  refine ⟨name, (readBack inside).mpr telling, by decide, ?_, ?_⟩
  · intro same
    exact absurd ((readBack outside).mp same) (by decide)
  · intro type typeTelling same
    exact apart type inside typeTelling telling (same.trans name.symm)

end Descriptor

end DexMembers
