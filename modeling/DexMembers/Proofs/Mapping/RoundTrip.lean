import DexMembers.Proofs.Mapping.PrintedText
import DexMembers.Proofs.Mapping.Run
import Mathlib.Data.List.Nodup

/-!
# A mapping file restores what it was written from

The text of a row of blocks reads back as a mapping that takes each renamed class, with any number
of dimensions, to its original, and the members of the class to their original names.  Of several
members that a reference could mean, the last in the block counts.
-/

set_option autoImplicit false

namespace DexMembers

/-! ### What a block says about its members -/

namespace MemberRenaming

def fieldName? (renamed : String) : MemberRenaming → Option String
  | field _ original other => if other = renamed then some original else none
  | method .. => none

def methodName? (signature : Signature) : MemberRenaming → Option String
  | field .. => none
  | method _ returnType parameterTypes original renamed _ =>
      if (⟨returnType, renamed, parameterTypes⟩ : Signature) = signature then some original
      else none

end MemberRenaming

namespace ClassBlock

def lastField? (block : ClassBlock) (renamed : String) : Option String :=
  block.members.reverse.findSome? (MemberRenaming.fieldName? renamed)

/-- The original name that the last method of the given new name and original types has. -/
def lastMethod? (block : ClassBlock) (signature : Signature) : Option String :=
  block.members.reverse.findSome? (MemberRenaming.methodName? signature)

end ClassBlock

/-- Where each step of a run overrides what was known before, or leaves it as it was, the last
step that overrides it counts. -/
theorem foldl_last_wins {σ β α : Type} (step : σ → β → σ) (known : σ → Option α)
    (said : β → Option α) (one : ∀ state b, known (step state b) = (said b).or (known state))
    (bs : List β) (state : σ) :
    known (bs.foldl step state) = (bs.reverse.findSome? said).or (known state) := by
  induction bs generalizing state with
  | nil => rfl
  | cons b bs ih =>
      have last : [b].findSome? said = said b := by
        cases found : said b <;> simp [found]
      rw [List.foldl_cons, ih, one, List.reverse_cons, List.findSome?_append, Option.or_assoc, last]

namespace ClassEntry

def withMember (entry : ClassEntry) : MemberRenaming → ClassEntry
  | .field _ original renamed => { entry with fields := entry.fields.insert renamed original }
  | .method _ returnType parameterTypes original renamed _ =>
      { entry with
        methods := entry.methods.insert ⟨returnType, renamed, parameterTypes⟩ original }

@[simp] theorem original_withMember (entry : ClassEntry) (member : MemberRenaming) :
    (entry.withMember member).original = entry.original := by
  cases member <;> rfl

theorem find?_fields_withMember (renamed : String) (entry : ClassEntry) (member : MemberRenaming) :
    (entry.withMember member).fields.find? renamed =
      (member.fieldName? renamed).or (entry.fields.find? renamed) := by
  cases member with
  | field type original other =>
      simp only [withMember, Dictionary.find?_insert, MemberRenaming.fieldName?]
      by_cases same : other = renamed
      · simp [same]
      · simp [same, Ne.symm same]
  | method newLines returnType parameterTypes original other oldLines => rfl

theorem find?_methods_withMember (signature : Signature) (entry : ClassEntry)
    (member : MemberRenaming) :
    (entry.withMember member).methods.find? signature =
      (member.methodName? signature).or (entry.methods.find? signature) := by
  cases member with
  | field type original other => rfl
  | method newLines returnType parameterTypes original other oldLines =>
      simp only [withMember, Dictionary.find?_insert, MemberRenaming.methodName?]
      by_cases same : (⟨returnType, other, parameterTypes⟩ : Signature) = signature
      · simp [same]
      · simp [same, Ne.symm same]

theorem map_ofWritten_parametersText {parameterTypes : List Descriptor}
    (plain : ∀ type ∈ parameterTypes, type.Plain) :
    ((Text.splitAll ',' (MemberRenaming.parametersText parameterTypes)).filter (· ≠ [])).map
      .ofWritten = parameterTypes := by
  cases types : parameterTypes with
  | nil => rfl
  | cons first rest =>
      rw [← types]
      have unbroken : ∀ piece ∈ parameterTypes.map fun type => type.qualifiedName.toList,
          ',' ∉ piece := by
        intro piece member comma
        obtain ⟨type, inTypes, rfl⟩ := List.mem_map.mp member
        exact ne_mark_of_isTypeChar ((plain type inTypes).chars ',' comma) (by simp) rfl
      have nonempty : parameterTypes.map (fun type => type.qualifiedName.toList) ≠ [] := by
        simp [types]
      have kept : ∀ piece ∈ parameterTypes.map fun type => type.qualifiedName.toList,
          decide (piece ≠ []) = true := by
        intro piece member
        obtain ⟨type, inTypes, rfl⟩ := List.mem_map.mp member
        exact decide_eq_true (plain type inTypes).ne_nil
      have restored : ∀ type ∈ parameterTypes,
          Descriptor.ofWritten type.qualifiedName.toList = id type :=
        fun type inTypes => Descriptor.ofWritten_qualifiedName (plain type inTypes).hasTellingName
      rw [Text.splitAll_eq_splitOn, MemberRenaming.parametersText,
        List.splitOn_intercalate ',' unbroken nonempty, List.filter_eq_self.mpr kept, List.map_map]
      exact (List.map_congr_left restored).trans (List.map_id _)

theorem insert_parts (entry : ClassEntry) {member : MemberRenaming} (plain : member.Plain) :
    entry.insert member.parts = entry.withMember member := by
  cases member with
  | field type original renamed =>
      simp only [ClassEntry.insert, MemberRenaming.parts, withMember, String.ofList_toList]
  | method newLines returnType parameterTypes original renamed oldLines =>
      simp only [ClassEntry.insert, MemberRenaming.parts, withMember, String.ofList_toList,
        map_ofWritten_parametersText plain.2.1,
        Descriptor.ofWritten_qualifiedName plain.1.hasTellingName]

end ClassEntry

namespace ClassBlock

def entry (block : ClassBlock) : ClassEntry :=
  block.members.foldl ClassEntry.withMember { original := .object block.original }

theorem original_entry (block : ClassBlock) : block.entry.original = .object block.original := by
  have kept : ∀ (members : List MemberRenaming) (entry : ClassEntry),
      (members.foldl ClassEntry.withMember entry).original = entry.original := by
    intro members
    induction members with
    | nil => exact fun _ => rfl
    | cons member rest ih =>
        intro entry
        rw [List.foldl_cons, ih, ClassEntry.original_withMember]
  exact kept block.members _

theorem find?_fields_entry (block : ClassBlock) (renamed : String) :
    block.entry.fields.find? renamed = block.lastField? renamed :=
  (foldl_last_wins ClassEntry.withMember (fun entry => entry.fields.find? renamed) _
    (ClassEntry.find?_fields_withMember renamed) block.members _).trans Option.or_none

theorem find?_methods_entry (block : ClassBlock) (signature : Signature) :
    block.entry.methods.find? signature = block.lastMethod? signature :=
  (foldl_last_wins ClassEntry.withMember (fun entry => entry.methods.find? signature) _
    (ClassEntry.find?_methods_withMember signature) block.members _).trans Option.or_none

end ClassBlock

/-! ### Reading the lines of blocks -/

namespace Mapping

namespace Progress

def withBlock (progress : Progress) (block : ClassBlock) : Progress :=
  { finished := progress.classes
    current := some (.object block.renamed, block.entry) }

theorem readLine_head (progress : Progress) (number : Nat) {block : ClassBlock}
    (plain : block.Plain) :
    progress.readLine number block.head = .ok
      { finished := progress.classes
        current := some (.object block.renamed, { original := .object block.original }) } := by
  have role : LineRole.of block.head = .typeLine := by
    rw [ClassBlock.head, List.append_assoc, List.append_assoc]
    exact LineRole.of_written plain.original.dotted_ne_nil plain.original.dotted_chars _
  simp only [readLine, role, TypeLine.read?_head plain,
    Descriptor.ofWritten_dotted plain.original.hasTellingName,
    Descriptor.ofWritten_dotted plain.renamed.hasTellingName]

theorem readLines_members (finished : Dictionary Descriptor ClassEntry) (renamed : Descriptor)
    (entry : ClassEntry) (number : Nat) {members : List MemberRenaming}
    (plain : ∀ member ∈ members, member.Plain) :
    readLines { finished, current := some (renamed, entry) } number
      (members.map MemberRenaming.line) =
        .ok { finished, current := some (renamed, members.foldl ClassEntry.withMember entry) } := by
  induction members generalizing entry number with
  | nil => rfl
  | cons member rest ih =>
      simp only [List.mem_cons, forall_eq_or_imp] at plain
      simp only [List.map_cons, readLines, readLine, MemberRenaming.role_line plain.1,
        MemberRenaming.read?_line plain.1, ClassEntry.insert_parts entry plain.1]
      exact ih (entry.withMember member) (number + 1) plain.2

theorem readLines_block (progress : Progress) (number : Nat) {block : ClassBlock}
    (plain : block.Plain) :
    progress.readLines number block.lines = .ok (progress.withBlock block) := by
  simp only [ClassBlock.lines, readLines, readLine_head progress number plain]
  exact readLines_members _ _ _ _ plain.members

theorem readLines_blocks (progress : Progress) (number : Nat) {blocks : List ClassBlock}
    (plain : ∀ block ∈ blocks, block.Plain) :
    progress.readLines number (blocks.flatMap ClassBlock.lines) =
      .ok (blocks.foldl withBlock progress) := by
  induction blocks generalizing progress number with
  | nil => rfl
  | cons block rest ih =>
      simp only [List.mem_cons, forall_eq_or_imp] at plain
      rw [List.flatMap_cons, readLines_append, readLines_block progress number plain.1,
        Except.ok_bind, ih _ _ plain.2, List.foldl_cons]

def saidOf (renamed : Descriptor) (block : ClassBlock) : Option ClassEntry :=
  if Descriptor.object block.renamed = renamed then some block.entry else none

theorem find?_classes_withBlock (renamed : Descriptor) (progress : Progress) (block : ClassBlock) :
    (progress.withBlock block).classes.find? renamed =
      (saidOf renamed block).or (progress.classes.find? renamed) := by
  simp only [withBlock, classes, Dictionary.find?_insert, saidOf]
  by_cases same : Descriptor.object block.renamed = renamed
  · simp [same]
  · simp [same, Ne.symm same]

end Progress

def ofBlocks (blocks : List ClassBlock) : Mapping :=
  { classes := (blocks.foldl Progress.withBlock {}).classes }

theorem read_textOf {blocks : List ClassBlock} (plain : ∀ block ∈ blocks, block.Plain) :
    read (textOf blocks) = .ok (ofBlocks blocks) := by
  have last : ∀ (progress : Progress) (number : Nat),
      progress.readLines number [[]] = .ok progress := fun _ _ => rfl
  rw [read, lines_textOf plain, Progress.readLines_append, Progress.readLines_blocks {} 1 plain,
    Except.ok_bind, last]
  rfl

theorem find?_ofBlocks (blocks : List ClassBlock) (renamed : Descriptor) :
    (ofBlocks blocks).classes.find? renamed =
      blocks.reverse.findSome? (Progress.saidOf renamed) :=
  (foldl_last_wins Progress.withBlock (fun progress => progress.classes.find? renamed) _
    (Progress.find?_classes_withBlock renamed) blocks {}).trans Option.or_none

theorem find?_ofBlocks_of_mem {blocks : List ClassBlock}
    (distinct : (blocks.map ClassBlock.renamed).Nodup) {block : ClassBlock}
    (member : block ∈ blocks) :
    (ofBlocks blocks).classes.find? (.object block.renamed) = some block.entry := by
  rw [find?_ofBlocks]
  cases found : blocks.reverse.findSome? (Progress.saidOf (.object block.renamed)) with
  | none =>
      have silent := List.findSome?_eq_none_iff.mp found block (List.mem_reverse.mpr member)
      simp [Progress.saidOf] at silent
  | some entry =>
      obtain ⟨other, inBlocks, said⟩ := List.exists_of_findSome?_eq_some found
      rw [Progress.saidOf] at said
      split at said
      · rename_i same
        have sameName : other.renamed = block.renamed := Descriptor.object.inj same
        have same : other = block :=
          List.inj_on_of_nodup_map distinct (List.mem_reverse.mp inBlocks) member sameName
        rw [← same, Option.some.inj said]
      · cases said

theorem find?_ofBlocks_of_unnamed {blocks : List ClassBlock} {component : Descriptor}
    (unnamed : ∀ block ∈ blocks, component ≠ .object block.renamed) :
    (ofBlocks blocks).classes.find? component = none := by
  rw [find?_ofBlocks, List.findSome?_eq_none_iff]
  intro block member
  have other : Descriptor.object block.renamed ≠ component :=
    Ne.symm (unnamed block (List.mem_reverse.mp member))
  simp [Progress.saidOf, other]

/-- The printed form of blocks with plain names, of which no two rename to the same class, reads as
a mapping that restores each class and its members.  Types, methods and fields over other classes
stay as they are. -/
theorem read_textOf_restores (blocks : List ClassBlock) (plain : ∀ block ∈ blocks, block.Plain)
    (distinct : (blocks.map ClassBlock.renamed).Nodup) :
    ∃ mapping, read (textOf blocks) = .ok mapping ∧
      (∀ block ∈ blocks, ∀ dimensions,
        mapping.restoreType ((Descriptor.object block.renamed).nested dimensions) =
          (Descriptor.object block.original).nested dimensions ∧
        (∀ method : MethodRef,
          method.declaringType = (Descriptor.object block.renamed).nested dimensions →
          mapping.restoreMethod method =
            { declaringType := (Descriptor.object block.original).nested dimensions
              name := (block.lastMethod?
                { returnType := mapping.restoreType method.returnType
                  name := method.name
                  parameterTypes := method.parameterTypes.map mapping.restoreType }).getD
                    method.name
              parameterTypes := method.parameterTypes.map mapping.restoreType
              returnType := mapping.restoreType method.returnType }) ∧
        (∀ field : FieldRef,
          field.declaringType = (Descriptor.object block.renamed).nested dimensions →
          mapping.restoreField field =
            { declaringType := (Descriptor.object block.original).nested dimensions
              name := (block.lastField? field.name).getD field.name
              fieldType := mapping.restoreType field.fieldType })) ∧
      (∀ type : Descriptor, (∀ block ∈ blocks, type.component ≠ .object block.renamed) →
        mapping.restoreType type = type ∧
        (∀ method : MethodRef, method.declaringType = type →
          mapping.restoreMethod method = method) ∧
        (∀ field : FieldRef, field.declaringType = type →
          mapping.restoreField field = field)) := by
  refine ⟨ofBlocks blocks, read_textOf plain, ?_, ?_⟩
  · intro block member dimensions
    have known : (ofBlocks blocks).entryOf? ((Descriptor.object block.renamed).nested dimensions) =
        some block.entry := by
      rw [entryOf?, Descriptor.component_nested]
      exact find?_ofBlocks_of_mem distinct member
    have arity : ((Descriptor.object block.renamed).nested dimensions).arity = dimensions := by
      rw [Descriptor.arity_nested]
      rfl
    refine ⟨?_, ?_, ?_⟩
    · simp only [restoreType, known, block.original_entry, arity]
    · intro method declared
      simp only [restoreMethod, declared, known, block.original_entry, arity,
        block.find?_methods_entry]
    · intro field declared
      simp only [restoreField, declared, known, block.original_entry, arity,
        block.find?_fields_entry]
  · intro type unnamed
    have unknown : (ofBlocks blocks).entryOf? type = none := find?_ofBlocks_of_unnamed unnamed
    refine ⟨?_, ?_, ?_⟩
    · simp only [restoreType, unknown]
    · intro method declared
      simp only [restoreMethod, declared, unknown]
    · intro field declared
      simp only [restoreField, declared, unknown]

/-- A class used before its own block, and two methods of one new name: the parameter of the
reference is restored first, and tells which of the two is meant. -/
theorem read_textOf_restores_overload :
    let point : Descriptor := .object "geo/Point"
    let shape : ClassBlock :=
      { original := "geo/Shape"
        renamed := "a"
        members := [
          .field point "origin" "c",
          .method none (.primitive .void) [.array (.primitive .int)] "resize" "b" (some (7, none)),
          .method (some (1, 4)) (.primitive .void) [point] "moveTo" "b" none] }
    let other : ClassBlock := { original := "geo/Point", renamed := "p/b", members := [] }
    let blocks := [shape, other]
    (∀ block ∈ blocks, block.Plain) ∧ (blocks.map ClassBlock.renamed).Nodup ∧
      ∃ mapping, read (textOf blocks) = .ok mapping ∧
        mapping.restoreMethod
          { declaringType := .array (.object "a")
            name := "b"
            parameterTypes := [.object "p/b"]
            returnType := .primitive .void } =
          { declaringType := .array (.object "geo/Shape")
            name := "moveTo"
            parameterTypes := [point]
            returnType := .primitive .void } := by
  intro point shape other blocks
  have pointName : PlainClassName "geo/Point" := by decide
  have plain : ∀ block ∈ blocks, block.Plain := by
    simp only [blocks, List.mem_cons, List.not_mem_nil, or_false, forall_eq_or_imp, forall_eq]
    constructor
    · refine ⟨by decide, by decide, ?_⟩
      simp only [shape, List.mem_cons, List.not_mem_nil, or_false, forall_eq_or_imp, forall_eq,
        MemberRenaming.Plain, Descriptor.Plain, point, true_and]
      exact ⟨⟨pointName, by decide, by decide⟩, ⟨by decide, by decide⟩,
        pointName, by decide, by decide⟩
    · exact ⟨pointName, by decide, by simp [other]⟩
  have distinct : (blocks.map ClassBlock.renamed).Nodup := by decide
  obtain ⟨mapping, readable, restored, others⟩ := read_textOf_restores blocks plain distinct
  refine ⟨plain, distinct, mapping, readable, ?_⟩
  have parameter : mapping.restoreType (.object "p/b") = point :=
    (restored other (by simp [blocks]) 0).1
  have returned : mapping.restoreType (.primitive .void) = .primitive .void :=
    (others (.primitive .void) (by simp [Descriptor.component])).1
  rw [(restored shape (by simp [blocks]) 1).2.1 _ rfl]
  simp only [List.map_cons, List.map_nil, parameter, returned]
  rfl

end Mapping

end DexMembers
