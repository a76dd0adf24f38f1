import DexMembers.Proofs.Listing.LineOrder
import DexMembers.Proofs.Text.CodePointOrder

/-!
# The lines of an image are a sort of its records

The members that are asked for give one line each, under their original names if a mapping is set.
Sorting changes nothing but their order: the listing holds each line as often as a record gives it,
in ascending order of code points, and so it does not depend on the order of the records.
-/

set_option autoImplicit false

namespace DexMembers

theorem lineLE_iff_codePoints (first second : String) :
    lineLE first second = true ↔ Text.codePoints first ≤ Text.codePoints second := by
  rw [lineLE, decide_eq_true_iff, Text.utf8Bytes_le_iff]

namespace MemberTable

def restored (mapping : Option Mapping) (table : MemberTable) : MemberTable :=
  match mapping with
  | some mapping =>
      { table with
        methods := table.methods.map mapping.restoreMethod
        fields := table.fields.map mapping.restoreField }
  | none => table

def rendered (hideNumbers : Bool) (selection : Selection) (table : MemberTable) : List String :=
  (if selection.hasMethods then table.methods.map (MethodRef.line hideNumbers) else []) ++
    (if selection.hasFields then table.fields.map (FieldRef.line hideNumbers) else [])

def askedCount (selection : Selection) (table : MemberTable) : Nat :=
  (if selection.hasMethods then table.methods.length else 0) +
    (if selection.hasFields then table.fields.length else 0)

theorem unsortedLines_eq_rendered (options : ListingOptions) (table : MemberTable) :
    table.unsortedLines options =
      (table.restored options.mapping).rendered options.hideNumbers options.selection := by
  rw [unsortedLines, rendered]
  cases mapped : options.mapping with
  | none =>
      have methods : methodLine options = MethodRef.line options.hideNumbers := by
        funext method
        rw [methodLine, mapped]
      have fields : fieldLine options = FieldRef.line options.hideNumbers := by
        funext field
        rw [fieldLine, mapped]
      rw [methods, fields, restored]
  | some mapping =>
      have methods : methodLine options =
          MethodRef.line options.hideNumbers ∘ mapping.restoreMethod := by
        funext method
        rw [methodLine, mapped, Function.comp_apply]
      have fields : fieldLine options =
          FieldRef.line options.hideNumbers ∘ mapping.restoreField := by
        funext field
        rw [fieldLine, mapped, Function.comp_apply]
      rw [methods, fields, ← List.map_map, ← List.map_map, restored]

theorem length_unsortedLines (options : ListingOptions) (table : MemberTable) :
    (table.unsortedLines options).length = table.askedCount options.selection := by
  rw [unsortedLines, askedCount, List.length_append]
  congr 1
  · split <;> simp
  · split <;> simp

theorem lines_eq_of_perm (options : ListingOptions) {first second : MemberTable}
    (methods : first.methods.Perm second.methods) (fields : first.fields.Perm second.fields) :
    first.lines options = second.lines options := by
  have unsorted : (first.unsortedLines options).Perm (second.unsortedLines options) := by
    rw [unsortedLines, unsortedLines]
    apply List.Perm.append
    · split
      · exact methods.map _
      · exact List.Perm.refl _
    · split
      · exact fields.map _
      · exact List.Perm.refl _
  exact (linesSorted_lines options first).eq_of_perm (linesSorted_lines options second)
    ((List.mergeSort_perm _ _).trans (unsorted.trans (List.mergeSort_perm _ _).symm))

/-- The lines of an image are those of its records, each record mapped first and rendered then:
as many as there are records asked for, equal ones as often as they come, in ascending order of code
points.  The order of bytes that sorts them is that order for all texts, and any other order of the
records gives the same lines. -/
theorem lines_sort_rendered (options : ListingOptions) (table : MemberTable) :
    (table.lines options).Perm
      ((table.restored options.mapping).rendered options.hideNumbers options.selection) ∧
    (table.lines options).length = table.askedCount options.selection ∧
    (table.lines options).Pairwise
      (fun first second => Text.codePoints first ≤ Text.codePoints second) ∧
    (∀ first second, lineLE first second = true ↔
      Text.codePoints first ≤ Text.codePoints second) ∧
    ∀ other : MemberTable, other.methods.Perm table.methods → other.fields.Perm table.fields →
      other.lines options = table.lines options := by
  have sorted : (table.lines options).Perm (table.unsortedLines options) :=
    List.mergeSort_perm _ _
  refine ⟨?permutation, ?count, ?ascending, lineLE_iff_codePoints, ?records⟩
  case permutation => rwa [unsortedLines_eq_rendered] at sorted
  case count => rw [sorted.length_eq, length_unsortedLines]
  case ascending =>
    exact (linesSorted_lines options table).imp fun early => (lineLE_iff_codePoints _ _).mp early
  case records => exact fun other methods fields => lines_eq_of_perm options methods fields

/-- Three fields in two orders, two of them alike once their class has lost its counter.  The
supplementary character comes last, as its code point does; its UTF-16 units would put it first. -/
theorem lines_sort_rendered_supplementary :
    let field (declaring name : String) : FieldRef :=
      { declaringType := .object declaring, name, fieldType := .primitive .int }
    let beyond := field "A$$Lambda$1" (String.singleton (Char.ofNat 0x1F600))
    let wide := field "A$$Lambda$2" (String.singleton (Char.ofNat 0xFF5E))
    let again := field "A$$Lambda$3" (String.singleton (Char.ofNat 0xFF5E))
    let table : MemberTable := { name := "a.dex", methods := [], fields := [beyond, wide, again] }
    let other : MemberTable := { name := "b.dex", methods := [], fields := [again, beyond, wide] }
    let options : ListingOptions := { hideNumbers := true, selection := .all }
    other.fields.Perm table.fields ∧ other.lines options = table.lines options ∧
      table.lines options =
        ["A$$Lambda \uff5e: int", "A$$Lambda \uff5e: int", "A$$Lambda 😀: int"] := by
  intro field beyond wide again table other options
  have methods : other.methods.Perm table.methods := List.Perm.refl _
  have fields : other.fields.Perm table.fields :=
    (List.Perm.swap beyond again [wide]).trans ((List.Perm.swap wide again []).cons beyond)
  obtain ⟨permutation, _, _, _, records⟩ := lines_sort_rendered options table
  have ascending : LinesSorted
      ["A$$Lambda \uff5e: int", "A$$Lambda \uff5e: int", "A$$Lambda 😀: int"] := by
    decide +kernel
  have listed := (linesSorted_lines options table).eq_of_perm ascending
    (permutation.trans (by decide +kernel))
  exact ⟨fields, records other methods fields, listed⟩

end MemberTable

end DexMembers
