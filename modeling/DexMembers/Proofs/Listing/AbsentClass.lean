import DexMembers.Listing.Build
import DexMembers.Proofs.Mapping.Appended

/-!
# Classes that an image does not mention

To restore a member, the entries of what its own types are arrays of are looked up, and no others.
So whatever a mapping says of classes that occur in no type of an image, the lines of the image are
the same.
-/

set_option autoImplicit false

namespace DexMembers

def MethodRef.types (method : MethodRef) : List Descriptor :=
  method.declaringType :: method.returnType :: method.parameterTypes

def FieldRef.types (field : FieldRef) : List Descriptor :=
  [field.declaringType, field.fieldType]

/-- Some type of a member is an array of the given type, or is that type. -/
def MemberTable.Mentions (table : MemberTable) (component : Descriptor) : Prop :=
  (∃ method ∈ table.methods, ∃ type ∈ method.types, type.component = component) ∨
    ∃ field ∈ table.fields, ∃ type ∈ field.types, type.component = component

/-! ### What is looked up for a member -/

namespace Mapping

variable {mapping other : Mapping}

theorem restoreType_congr {type : Descriptor}
    (same : mapping.entryOf? type = other.entryOf? type) :
    mapping.restoreType type = other.restoreType type := by
  rw [restoreType, restoreType, same]

/-- The entries of the classes of its types decide what a method was, its name included. -/
theorem restoreMethod_congr {method : MethodRef}
    (same : ∀ type ∈ method.types, mapping.entryOf? type = other.entryOf? type) :
    mapping.restoreMethod method = other.restoreMethod method := by
  simp only [MethodRef.types, List.forall_mem_cons] at same
  obtain ⟨declaring, returned, parameters⟩ := same
  have parameterTypes : method.parameterTypes.map mapping.restoreType =
      method.parameterTypes.map other.restoreType :=
    List.map_congr_left fun type member => restoreType_congr (parameters type member)
  rw [restoreMethod, restoreMethod, declaring, parameterTypes, restoreType_congr returned]

theorem restoreField_congr {field : FieldRef}
    (same : ∀ type ∈ field.types, mapping.entryOf? type = other.entryOf? type) :
    mapping.restoreField field = other.restoreField field := by
  simp only [FieldRef.types, List.forall_mem_cons] at same
  obtain ⟨declaring, own, _⟩ := same
  rw [restoreField, restoreField, declaring, restoreType_congr own]

end Mapping

namespace MemberTable

variable {table : MemberTable} {mapping other : Mapping}

theorem lines_eq_of_agree (options : ListingOptions)
    (agree : ∀ component, table.Mentions component →
      mapping.classes.find? component = other.classes.find? component) :
    table.lines { options with mapping := some mapping } =
      table.lines { options with mapping := some other } := by
  have methods : table.methods.map (methodLine { options with mapping := some mapping }) =
      table.methods.map (methodLine { options with mapping := some other }) := by
    apply List.map_congr_left
    intro method member
    have restored : mapping.restoreMethod method = other.restoreMethod method :=
      Mapping.restoreMethod_congr fun type among =>
        agree type.component (Or.inl ⟨method, member, type, among, rfl⟩)
    exact congrArg (MethodRef.line options.hideNumbers) restored
  have fields : table.fields.map (fieldLine { options with mapping := some mapping }) =
      table.fields.map (fieldLine { options with mapping := some other }) := by
    apply List.map_congr_left
    intro field member
    have restored : mapping.restoreField field = other.restoreField field :=
      Mapping.restoreField_congr fun type among =>
        agree type.component (Or.inr ⟨field, member, type, among, rfl⟩)
    exact congrArg (FieldRef.line options.hideNumbers) restored
  rw [lines, lines, unsortedLines, unsortedLines, methods, fields]

/-- The mapping that says nothing is as good as none. -/
theorem lines_without_classes (options : ListingOptions) (table : MemberTable) :
    table.lines { options with mapping := some {} } =
      table.lines { options with mapping := none } :=
  rfl

end MemberTable

/-! ### The start of a text that can be read -/

theorem LineRole.unindented_of_typeLine {line : List Char} (role : LineRole.of line = .typeLine) :
    ∀ c, line.head? = some c → Text.isBlank c = false := by
  have first : line.takeWhile Text.isBlank = [] := by
    rw [LineRole.of] at role
    split at role
    · cases role
    · split at role
      · cases role
      · split at role
        · assumption
        · cases role
  intro c start
  cases line with
  | nil => cases start
  | cons head rest =>
      obtain rfl := Option.some.inj start
      rw [List.takeWhile_cons] at first
      split at first
      · cases first
      · rename_i unblank
        exact Bool.eq_false_iff.mpr unblank

namespace Mapping

/-- A text begins with a class, since no line before it could be for a member. -/
theorem openUnindented_of_readLines {rest : List (List Char)} {number : Nat} {progress : Progress}
    (readable : ({} : Progress).readLines number rest = .ok progress) : OpenUnindented rest := by
  induction rest generalizing number with
  | nil =>
      intro line found
      cases found
  | cons line rest ih =>
      rw [Progress.readLines_cons] at readable
      obtain ⟨next, step, readable⟩ := eq_ok_of_bind_eq_ok readable
      intro significant found
      cases role : LineRole.of line with
      | nothing =>
          rw [Progress.readLine, role] at step
          cases step
          exact ih readable significant (by simpa [role] using found)
      | typeLine =>
          obtain rfl : line = significant := by simpa [role] using found
          exact LineRole.unindented_of_typeLine role
      | memberLine =>
          rw [Progress.readLine, role] at step
          cases parts : MemberLine.read? line with
          | none =>
              rw [parts] at step
              cases step
          | some member =>
              rw [parts] at step
              cases step

theorem openUnindented_of_read {text : String} {mapping : Mapping}
    (readable : read text = .ok mapping) : OpenUnindented (lines text.toList) := by
  rw [read_eq_map] at readable
  obtain ⟨progress, run, _⟩ := eq_ok_of_map_eq_ok readable
  exact openUnindented_of_readLines run

end Mapping

/-- A second text that renames to no class of the image adds nothing: the lines under both texts are
those under the first, and under the second alone those without a mapping.  (That the second begins
with a class line follows from its being readable.) -/
theorem lines_eq_of_absent_classes (table : MemberTable) (options : ListingOptions)
    {first second : String} {before after : Mapping} (readable : Mapping.read first = .ok before)
    (alsoReadable : Mapping.read second = .ok after)
    (absent : ∀ renamed entry, after.classes.find? renamed = some entry →
      ¬ table.Mentions renamed) :
    (∃ joined, Mapping.read (first ++ "\n" ++ second) = .ok joined ∧
      table.lines { options with mapping := some joined } =
        table.lines { options with mapping := some before }) ∧
    table.lines { options with mapping := some after } =
      table.lines { options with mapping := none } := by
  have unmapped : ∀ component, table.Mentions component →
      after.classes.find? component = none := by
    intro component mentioned
    by_contra found
    obtain ⟨entry, found⟩ := Option.ne_none_iff_exists'.mp found
    exact absent component entry found mentioned
  have opened := Mapping.openUnindented_of_read alsoReadable
  obtain ⟨joined, both, entries⟩ := (Mapping.read_append_of_ok readable opened).1 after alsoReadable
  refine ⟨⟨joined, both, ?_⟩, ?_⟩
  · apply MemberTable.lines_eq_of_agree
    intro component mentioned
    rw [entries, unmapped component mentioned, Option.none_or]
  · rw [← MemberTable.lines_without_classes]
    apply MemberTable.lines_eq_of_agree
    intro component mentioned
    rw [unmapped component mentioned, Dictionary.find?_empty]

/-- Both texts rename a field to `c`, the second one in a class that the image does not mention, so
the field of `a` keeps the name that the first text gives it. -/
theorem lines_eq_of_absent_classes_same_member :
    let table : MemberTable :=
      { name := "classes.dex"
        methods := [
          { declaringType := .object "a", name := "d", parameterTypes := [.array (.primitive .int)]
            returnType := .object "b" }]
        fields := [
          { declaringType := .object "a", name := "c", fieldType := .array (.object "a") }] }
    let first := "geo.Point -> a:\n    int x -> c"
    let second := "# more\ngeo.Line -> e:\n    int y -> c\n    void move(int[]) -> d"
    let options : ListingOptions := { selection := .all }
    (∃ before, Mapping.read first = .ok before ∧ ∃ joined,
      Mapping.read (first ++ "\n" ++ second) = .ok joined ∧
        table.lines { options with mapping := some joined } =
          table.lines { options with mapping := some before }) ∧
    ∃ after, Mapping.read second = .ok after ∧
      (∀ renamed entry, after.classes.find? renamed = some entry → ¬ table.Mentions renamed) ∧
      table.lines { options with mapping := some after } =
        table.lines { options with mapping := none } := by
  intro table first second options
  let point : ClassEntry :=
    { original := .object "geo/Point"
      fields := ({} : Dictionary String String).insert "c" "x" }
  let line : ClassEntry :=
    { original := .object "geo/Line"
      fields := ({} : Dictionary String String).insert "c" "y"
      methods := ({} : Dictionary Signature String).insert
        { returnType := .primitive .void, name := "d"
          parameterTypes := [.array (.primitive .int)] } "move" }
  let before : Mapping :=
    { classes := ({} : Dictionary Descriptor ClassEntry).insert (.object "a") point }
  let after : Mapping :=
    { classes := ({} : Dictionary Descriptor ClassEntry).insert (.object "e") line }
  have readable : Mapping.read first = .ok before := by decide +kernel
  have alsoReadable : Mapping.read second = .ok after := by decide +kernel
  have absent : ∀ renamed entry, after.classes.find? renamed = some entry →
      ¬ table.Mentions renamed := by
    intro renamed entry found
    have only : renamed = .object "e" := by
      by_contra other
      rw [Dictionary.find?_insert, if_neg other] at found
      cases found
    subst only
    rintro (⟨method, member, type, among, same⟩ | ⟨field, member, type, among, same⟩)
    · revert type
      obtain rfl := List.mem_singleton.mp member
      decide
    · revert type
      obtain rfl := List.mem_singleton.mp member
      decide
  obtain ⟨joined, without⟩ :=
    lines_eq_of_absent_classes table options readable alsoReadable absent
  exact ⟨⟨before, readable, joined⟩, after, alsoReadable, absent, without⟩

end DexMembers
