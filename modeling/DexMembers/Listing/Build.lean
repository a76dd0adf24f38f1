import DexMembers.Image.Members
import DexMembers.Mapping.Basic
import DexMembers.Text.Encoding

/-!
# The lines of one image

Every member asked for gives one line, under its original name if a mapping is set.  The lines are
sorted by their bytes, which is the order of their code points; equal lines all stay.
-/

set_option autoImplicit false

namespace DexMembers

structure ListingOptions where
  /-- Leave out the counters of synthetic names. -/
  hideNumbers : Bool := false
  selection : Selection := .methods
  /-- Restores original names. -/
  mapping : Option Mapping := none
deriving DecidableEq, Repr

/-- Whether a line comes no later than another: by their bytes. -/
def lineLE (first second : String) : Bool :=
  decide (Text.utf8Bytes first ≤ Text.utf8Bytes second)

namespace MemberTable

def methodLine (options : ListingOptions) (method : MethodRef) : String :=
  match options.mapping with
  | some mapping => (mapping.restoreMethod method).line options.hideNumbers
  | none => method.line options.hideNumbers

def fieldLine (options : ListingOptions) (field : FieldRef) : String :=
  match options.mapping with
  | some mapping => (mapping.restoreField field).line options.hideNumbers
  | none => field.line options.hideNumbers

def unsortedLines (options : ListingOptions) (table : MemberTable) : List String :=
  (if options.selection.hasMethods then table.methods.map (methodLine options) else []) ++
    (if options.selection.hasFields then table.fields.map (fieldLine options) else [])

def lines (options : ListingOptions) (table : MemberTable) : List String :=
  (table.unsortedLines options).mergeSort lineLE

end MemberTable

end DexMembers
