import DexMembers.Archive.Reader
import DexMembers.Journal
import DexMembers.Listing.Build
import DexMembers.Listing.Error

/-!
# Sources

What a run lists: a file, bytes with a name, or standard input.  A source is a bare dex image or an
archive of them; each image is listed on its own, in the order of the archive.  Standard input is
read to its end, so that a source that names it a second time finds nothing there.
-/

set_option autoImplicit false

namespace DexMembers

inductive Source where
  | file (path : String)
  | bytes (name : String) (content : List UInt8)
  | standardInput
deriving DecidableEq, Repr

namespace Source

def name : Source → String
  | file path => path
  | bytes name _ => name
  | standardInput => "<stdin>"

def content (inputs : Inputs) : Source → Except FileError (List UInt8)
  | file path => inputs.openFile path
  | bytes _ content => .ok content
  | standardInput => inputs.standardInput

def imageMembers (source image : String) (content : List UInt8) (selection : Selection) :
    Traced ListingError MemberTable := do
  let read ← (Image.readTraced content).mapError fun error =>
    .read source (some image) (.image error)
  Traced.ofExcept <| (read.members image selection).mapError fun
    | .image error => .read source (some image) (.image error)
    | .descriptor error => .decode source image error

def imagesMembers (source : String) (selection : Selection) :
    List ArchiveFile → Traced ListingError (List MemberTable)
  | [] => pure []
  | image :: rest => do
      let table ← imageMembers source image.name image.content selection
      let tables ← imagesMembers source selection rest
      return table :: tables

def members (inputs : Inputs) (selection : Selection) (source : Source) :
    Traced ListingError (List MemberTable) :=
  match source.content inputs with
  | .error error => .ofExcept (.error (.input source.name error))
  | .ok content =>
      if isDex content then do
        Traced.report (.bareImage source.name content.length)
        let table ← imageMembers source.name source.name content selection
        return [table]
      else
        match Archive.read content with
        | .error error => .ofExcept (.error (.read source.name none (.archive error)))
        | .ok archive => do
            let tables ← imagesMembers source.name selection archive.images
            Traced.report (.archiveRead source.name archive.fileCount tables.length)
            return tables

def tableLines (options : ListingOptions) : List MemberTable → Traced ListingError (List String)
  | [] => pure []
  | table :: rest => do
      let lines := table.lines options
      Traced.report (.imageListed table.name lines.length)
      let others ← tableLines options rest
      return lines ++ others

def lines (inputs : Inputs) (options : ListingOptions) (source : Source) :
    Traced ListingError (List String) := do
  let tables ← source.members inputs options.selection
  tableLines options tables

end Source

/-- What is left to read behind a source. -/
def Inputs.after (inputs : Inputs) : Source → Inputs
  | .standardInput => { inputs with standardInput := inputs.standardInput.map fun _ => [] }
  | .file _ | .bytes _ _ => inputs

def list (inputs : Inputs) (options : ListingOptions) :
    List Source → Traced ListingError (List String)
  | [] => pure []
  | source :: rest => do
      let lines ← source.lines inputs options
      let others ← list (inputs.after source) options rest
      return lines ++ others

end DexMembers
