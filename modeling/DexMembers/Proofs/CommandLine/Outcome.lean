import DexMembers.Proofs.CommandLine.Spelling
import DexMembers.Proofs.Listing.Streaming
import DexMembers.Proofs.Outcome
import DexMembers.Proofs.Text.ModifiedUtf8

/-!
# What a run of the program comes to

A run loads the mapping first, if one is named, and lists the sources then.  Without the mapping
nothing is printed.  With it, the lines of the sources before the first that cannot be listed are
printed, and the exit code tells whether there is such a source.
-/

set_option autoImplicit false

namespace DexMembers.CommandLine

namespace Arguments

def options (arguments : Arguments) (mapping : Option Mapping) : ListingOptions where
  hideNumbers := arguments.flags.contains .hideNumbers
  selection := arguments.selection
  mapping := mapping

structure SameButVerbose (arguments others : Arguments) : Prop where
  flags : ∀ flag ≠ .verbose, flag ∈ arguments.flags ↔ flag ∈ others.flags
  mapping : arguments.mapping = others.mapping
  files : arguments.files = others.files

variable {inputs : Inputs} {arguments others : Arguments}

/-! ### Loading the mapping -/

namespace SameButVerbose

variable (same : others.SameButVerbose arguments)
include same

theorem symm : arguments.SameButVerbose others :=
  ⟨fun flag other => (same.flags flag other).symm, same.mapping.symm, same.files.symm⟩

end SameButVerbose

end Arguments

variable {inputs : Inputs} {words : List String} {arguments : Arguments}

end DexMembers.CommandLine
