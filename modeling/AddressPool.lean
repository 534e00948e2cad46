import AddressPool.Address.Basic
import AddressPool.Address.Parser
import AddressPool.Address.Printer
import AddressPool.Admin.Arguments
import AddressPool.Admin.Command
import AddressPool.Admin.Outcome
import AddressPool.Allocation
import AddressPool.Config
import AddressPool.Decimal.Shortest
import AddressPool.Document.Basic
import AddressPool.Document.Reader
import AddressPool.Document.Writer
import AddressPool.Exclusion
import AddressPool.Files.Path
import AddressPool.Files.Tree
import AddressPool.Instances
import AddressPool.Interval.Basic
import AddressPool.Json.Error
import AddressPool.Json.Reader
import AddressPool.Json.Scalar
import AddressPool.Json.Value
import AddressPool.Json.Writer
import AddressPool.Main
import AddressPool.Prefix
import AddressPool.Program
import AddressPool.Range
import AddressPool.Ring
import AddressPool.Store.Backend
import AddressPool.Store.Basic
import AddressPool.Store.Disk
import AddressPool.Store.Memory
import AddressPool.Sweep
import AddressPool.Text.Blank
import AddressPool.Text.Combining
import AddressPool.Text.Duration
import AddressPool.Text.Numeral
import AddressPool.Text.Printable
import AddressPool.Text.Quoted
import AddressPool.Proofs.Interval.Values
import AddressPool.Proofs.Range.Bounds
import AddressPool.Proofs.Ring.Circuit
import AddressPool.Proofs.Text.Numerals
import AddressPool.Proofs.Address.Text
import AddressPool.Proofs.Files.Directory
import AddressPool.Proofs.Files.Requests
import AddressPool.Proofs.Store.Memory
import AddressPool.Proofs.Store.Names
import AddressPool.Proofs.Store.Conduct
import AddressPool.Proofs.Store.Picture
import AddressPool.Proofs.Store.Records
import AddressPool.Proofs.Store.Mirror
import AddressPool.Proofs.Store.Site
import AddressPool.Proofs.Store.Refinement
import AddressPool.Proofs.Allocation.Outcome
import AddressPool.Proofs.Allocation.Ownership
import AddressPool.Proofs.Allocation.Succession
import AddressPool.Proofs.Config.Allocations
import AddressPool.Proofs.Allocation.Turns
import AddressPool.Proofs.Allocation.Registration
import AddressPool.Proofs.Files.Alike
import AddressPool.Proofs.Store.Traces
import AddressPool.Proofs.Allocation.Failure
import AddressPool.Proofs.Config.Retries
import AddressPool.Proofs.Allocation.Asking
import AddressPool.Proofs.Store.Shown
import AddressPool.Proofs.Store.Served
import AddressPool.Proofs.Store.Listing
import AddressPool.Proofs.Allocation.Hint
import AddressPool.Proofs.Files.Killed
import AddressPool.Proofs.Store.Interrupted
import AddressPool.Proofs.Allocation.Interruption
import AddressPool.Proofs.Config.Recovery
import AddressPool.Proofs.Json.Scalars
import AddressPool.Proofs.Json.Collections
import AddressPool.Proofs.Document.RoundTrip
import AddressPool.Proofs.Ring.Walks
import AddressPool.Proofs.Range.Construction
import AddressPool.Proofs.Config.Cursors
import AddressPool.Proofs.Files.Locality
import AddressPool.Proofs.Files.Making
import AddressPool.Proofs.Store.Asking
import AddressPool.Proofs.Config.Neighbours
import AddressPool.Proofs.Config.Sharing
import AddressPool.Proofs.Config.Entries
import AddressPool.Proofs.Config.Validation
import AddressPool.Proofs.Ring.Apart
import AddressPool.Proofs.Allocation.Request
import AddressPool.Proofs.Allocation.Releases
import AddressPool.Proofs.Store.Replacing
import AddressPool.Proofs.Interval.FixedWidth
import AddressPool.Proofs.Interval.Removal
import AddressPool.Proofs.Interval.Queries
import AddressPool.Proofs.Interval.Pieces
import AddressPool.Proofs.Admin.LiveOwners
import AddressPool.Proofs.Admin.Collection
import AddressPool.Proofs.Admin.Sparing
import AddressPool.Proofs.Range.Carving
import AddressPool.Proofs.Ring.Rearranging
import AddressPool.Proofs.Range.FixedWidth
import AddressPool.Proofs.Range.Texts
import AddressPool.Proofs.Store.NameSpace
