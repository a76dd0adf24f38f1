import DexMembers.Proofs.Listing.LineOrder
import DexMembers.Proofs.Member.HiddenCounter
import Mathlib.Data.List.Forall2

/-!
# Listings that hide counters

Two builds of a program number their synthetic members differently.  A listing that hides counters
is the same for both, whichever members are asked for.
-/

set_option autoImplicit false

namespace DexMembers

theorem map_eq_of_forall₂ {α β : Type} {relates : α → α → Prop} {change : α → β}
    (alike : ∀ item other, relates item other → change item = change other) {items others : List α}
    (related : List.Forall₂ relates items others) : items.map change = others.map change := by
  rw [← List.forall₂_eq_eq_eq, List.forall₂_map_left_iff, List.forall₂_map_right_iff]
  exact related.imp alike

/-- Two tables whose members agree one by one, but for the counters of lambda classes, at the end of
names, and inside the names of lambda bodies, have the same lines once counters are hidden. -/
theorem lines_eq_of_sameButCounters (selection : Selection) {first second : MemberTable}
    (methods : List.Forall₂ MethodRef.SameButCounters first.methods second.methods)
    (fields : List.Forall₂ FieldRef.SameButCounters first.fields second.fields) :
    first.lines { hideNumbers := true, selection } =
      second.lines { hideNumbers := true, selection } := by
  have methodLines := map_eq_of_forall₂ (fun _ _ same => MethodRef.SameButCounters.line_eq same) methods
  have fieldLines := map_eq_of_forall₂ (fun _ _ same => FieldRef.SameButCounters.line_eq same) fields
  have unsorted : first.unsortedLines { hideNumbers := true, selection } =
      second.unsortedLines { hideNumbers := true, selection } := by
    change (if selection.hasMethods then first.methods.map (MethodRef.line true) else []) ++
        (if selection.hasFields then first.fields.map (FieldRef.line true) else []) =
      (if selection.hasMethods then second.methods.map (MethodRef.line true) else []) ++
        (if selection.hasFields then second.fields.map (FieldRef.line true) else [])
    rw [methodLines, fieldLines]
  rw [MemberTable.lines, MemberTable.lines, unsorted]

/-- Two builds of a lambda, an accessor and a captured variable. -/
theorem lines_eq_of_sameButCounters_two_builds :
    let build (ofClass accessor body : String) : MemberTable :=
      { name := "classes.dex"
        methods := [
          { declaringType := .array (.object ("app/Main$$Lambda$" ++ ofClass))
            name := "access$" ++ accessor, parameterTypes := [.primitive .int]
            returnType := .primitive .void },
          { declaringType := .object "app/Main", name := "lambda$run$" ++ body ++ "$9$Main"
            parameterTypes := [], returnType := .primitive .void }]
        fields := [
          { declaringType := .object ("app/Main$$Lambda$" ++ ofClass), name := "val$1"
            fieldType := .primitive .int }] }
    let options : ListingOptions := { hideNumbers := true, selection := .all }
    (build "26" "000" "14").lines options = (build "7" "1" "3").lines options ∧
      (build "7" "1" "3").lines options =
        ["app.Main lambda$run$9$Main()", "app.Main$$Lambda val$1: int",
          "app.Main$$Lambda[] access(int)"] := by
  intro build options
  have lambda : ∀ dimensions, ((Descriptor.object "app/Main$$Lambda$26").nested dimensions).SameLambda
      ((Descriptor.object "app/Main$$Lambda$7").nested dimensions) :=
    fun dimensions => .counter "app/Main".toList ['2', '6'] ['7'] dimensions rfl rfl
  have accessor : SyntheticNumber.SameMethodName "access$000".toList "access$1".toList :=
    .last "access".toList ['0', '0', '0'] ['1'] (by decide) rfl rfl (by decide) (by decide)
  have body : SyntheticNumber.SameMethodName "lambda$run$14$9$Main".toList
      "lambda$run$3$9$Main".toList :=
    .inner "lambda$run".toList ['1', '4'] ['3'] "9$Main".toList (.inr (by decide)) rfl rfl (by decide)
  constructor
  · apply lines_eq_of_sameButCounters
    · exact .cons ⟨lambda 1, accessor, rfl, rfl⟩ (.cons ⟨.same _, body, rfl, rfl⟩ .nil)
    · exact .cons ⟨lambda 0, rfl, rfl⟩ .nil
  · apply (MemberTable.linesSorted_lines _ _).eq_of_perm
    · decide +kernel
    · exact (List.mergeSort_perm _ _).trans (by decide +kernel)

end DexMembers
