import DexMembers.Listing.Build
import DexMembers.Proofs.Text.ModifiedUtf8
import Mathlib.Data.List.Sort

/-!
# The order of the lines of an image

The order by bytes is linear: two lines that come no later than one another are the same line.  So
a sorted list of lines is determined by how often each line stands in it, and sorting two lists
together is merging what each of them sorts to.
-/

set_option autoImplicit false

namespace DexMembers

theorem lineLE_trans (first second third : String) (early : lineLE first second = true)
    (late : lineLE second third = true) : lineLE first third = true := by
  rw [lineLE, decide_eq_true_iff] at *
  exact List.le_trans early late

theorem lineLE_total (first second : String) :
    (lineLE first second || lineLE second first) = true := by
  rw [Bool.or_eq_true, lineLE, lineLE, decide_eq_true_iff, decide_eq_true_iff]
  exact List.le_total _ _

theorem lineLE_antisymm {first second : String} (early : lineLE first second = true)
    (late : lineLE second first = true) : first = second := by
  rw [lineLE, decide_eq_true_iff] at early late
  exact Text.utf8Bytes_injective (List.le_antisymm early late)

def LinesSorted (lines : List String) : Prop :=
  lines.Pairwise fun first second => lineLE first second = true

instance (lines : List String) : Decidable (LinesSorted lines) :=
  inferInstanceAs (Decidable (lines.Pairwise _))

theorem linesSorted_mergeSort (lines : List String) : LinesSorted (lines.mergeSort lineLE) :=
  List.pairwise_mergeSort lineLE_trans lineLE_total lines

theorem LinesSorted.merge {first second : List String} (sorted : LinesSorted first)
    (others : LinesSorted second) : LinesSorted (first.merge second lineLE) :=
  List.pairwise_merge lineLE_trans lineLE_total first second sorted others

/-- The order in which lines are given makes no difference once they are sorted. -/
theorem LinesSorted.eq_of_perm {first second : List String} (sorted : LinesSorted first)
    (others : LinesSorted second) (same : first.Perm second) : first = second :=
  same.eq_of_pairwise (fun _ _ _ _ => lineLE_antisymm) sorted others

/-- Lines sorted together are what they are sorted apart, merged. -/
theorem mergeSort_lines_append (first second : List String) :
    (first ++ second).mergeSort lineLE =
      (first.mergeSort lineLE).merge (second.mergeSort lineLE) lineLE := by
  have merged := (linesSorted_mergeSort first).merge (linesSorted_mergeSort second)
  have together : ((first ++ second).mergeSort lineLE).Perm (first ++ second) :=
    List.mergeSort_perm _ _
  have apart : ((first.mergeSort lineLE).merge (second.mergeSort lineLE) lineLE).Perm
      (first ++ second) :=
    (List.merge_perm_append lineLE).trans
      ((List.mergeSort_perm _ _).append (List.mergeSort_perm _ _))
  exact (linesSorted_mergeSort _).eq_of_perm merged (together.trans apart.symm)

namespace MemberTable

theorem linesSorted_lines (options : ListingOptions) (table : MemberTable) :
    LinesSorted (table.lines options) :=
  linesSorted_mergeSort _

theorem unsortedLines_methods (hideNumbers : Bool) (mapping : Option Mapping)
    (table : MemberTable) :
    table.unsortedLines { hideNumbers, selection := .methods, mapping } =
      table.methods.map (methodLine { hideNumbers, mapping }) :=
  List.append_nil _

theorem unsortedLines_fields (hideNumbers : Bool) (mapping : Option Mapping)
    (table : MemberTable) :
    table.unsortedLines { hideNumbers, selection := .fields, mapping } =
      table.fields.map (fieldLine { hideNumbers, mapping }) :=
  List.nil_append _

theorem lines_all (hideNumbers : Bool) (mapping : Option Mapping)
    {all ofMethods ofFields : MemberTable} (methods : all.methods = ofMethods.methods)
    (fields : all.fields = ofFields.fields) :
    all.lines { hideNumbers, selection := .all, mapping } =
      (ofMethods.lines { hideNumbers, selection := .methods, mapping }).merge
        (ofFields.lines { hideNumbers, selection := .fields, mapping }) lineLE := by
  have asked : all.unsortedLines { hideNumbers, selection := .all, mapping } =
      ofMethods.unsortedLines { hideNumbers, selection := .methods, mapping } ++
        ofFields.unsortedLines { hideNumbers, selection := .fields, mapping } := by
    rw [unsortedLines_methods, unsortedLines_fields, ← methods, ← fields]
    rfl
  rw [lines, lines, lines, asked, mergeSort_lines_append]

end MemberTable

end DexMembers
