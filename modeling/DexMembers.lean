import DexMembers.Main
import DexMembers.Member.Record
import DexMembers.Proofs.Guarded.Listing
import DexMembers.Proofs.Listing.Blocks
import DexMembers.Proofs.Listing.Built
import DexMembers.Proofs.Listing.Resolution
import DexMembers.Proofs.Listing.Streaming
import DexMembers.Proofs.Listing.Truncation
import DexMembers.Proofs.Mapping.RoundTrip
import DexMembers.Proofs.Mapping.Appended
import DexMembers.Proofs.Mapping.Shape
import DexMembers.Proofs.Mapping.LineFeed
import DexMembers.Proofs.Listing.LineFeed
import DexMembers.Proofs.Listing.LineOrder
import DexMembers.Proofs.Listing.SortedLines
import DexMembers.Proofs.Text.LineBreak
import DexMembers.Proofs.Listing.Diagnostic
import DexMembers.Proofs.Listing.DanglingReference
import DexMembers.Proofs.CommandLine.Outcome
import DexMembers.Proofs.Listing.Selection
import DexMembers.Proofs.Listing.HiddenCounter
import DexMembers.Proofs.Listing.AbsentClass
import DexMembers.Proofs.Image.Entries
import DexMembers.Proofs.Image.BuiltLayout
import DexMembers.Proofs.Image.Bookkeeping
import DexMembers.Proofs.Archive.Stored
import DexMembers.Proofs.Archive.Overwritten
import DexMembers.Proofs.Mapping.MemberLines
import DexMembers.Proofs.Mapping.Respaced
import DexMembers.Proofs.Image.StoredString
import DexMembers.Proofs.Member.CounterLeftOut
import DexMembers.Proofs.Image.HeaderFields
import DexMembers.Proofs.Binary.Codec
import DexMembers.Proofs.Descriptor.Dimensions
import DexMembers.Proofs.Descriptor.Package
import DexMembers.Proofs.Image.ItemCodec
import DexMembers.Proofs.Guarded.Ids
