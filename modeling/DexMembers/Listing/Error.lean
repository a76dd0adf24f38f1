import DexMembers.Archive.Error
import DexMembers.Files
import DexMembers.Image.Members

/-!
# Why a listing ends early
-/

set_option autoImplicit false

namespace DexMembers

inductive SinkError where
  | full
  | flushFailed
deriving DecidableEq, Repr

def SinkError.message : SinkError → String
  | full => "sink full"
  | flushFailed => "flush failed"

inductive ReadError where
  | image (error : ImageError)
  | archive (error : ArchiveError)
deriving DecidableEq, Repr

namespace ReadError

def message : ReadError → String
  | image error => error.message
  | archive error => error.message

def causes : ReadError → List String
  | image error => [error.message, error.message]
  | archive error => error.message :: error.message :: error.causes

end ReadError

/-- A failure that ends a listing.  `source` names what was being listed, and `image` the image
within it. -/
inductive ListingError where
  | input (source : String) (error : FileError)
  | read (source : String) (image : Option String) (error : ReadError)
  | decode (source image : String) (error : DescriptorError)
  | output (error : SinkError)
deriving DecidableEq, Repr

namespace ListingError

def message : ListingError → String
  | input source .notFound => "File " ++ source ++ " not found."
  | input source error => "Unable to read " ++ source ++ ": " ++ error.message
  | read source (some image) error =>
      "Unable to read " ++ image ++ " in " ++ source ++ ": " ++ error.message
  | read source none error => "Unable to read " ++ source ++ ": " ++ error.message
  | decode source image error =>
      "Unable to decode " ++ image ++ " in " ++ source ++ ": " ++ error.message
  | output error => "Unable to write output: " ++ error.message

def causes : ListingError → List String
  | input _ error => [error.message]
  | read _ _ error => error.causes
  | decode _ _ error => [error.message]
  | output error => [error.message]

end ListingError

end DexMembers
