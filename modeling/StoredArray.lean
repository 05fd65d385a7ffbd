import StoredArray.Error
import StoredArray.Memory
import StoredArray.Remote.Connection
import StoredArray.Remote.Server
import StoredArray.Session.Run
import StoredArray.Slice.Basic
import StoredArray.Slice.Span
import StoredArray.Store.Action
import StoredArray.Store.Call
import StoredArray.View.Basic
import StoredArray.Proofs.Bytes
import StoredArray.Proofs.Memory.Backing
import StoredArray.Proofs.Memory.Dictionary
import StoredArray.Proofs.Memory.Placement
import StoredArray.Proofs.Memory.Ranges
import StoredArray.Proofs.Memory.Succession
import StoredArray.Proofs.Remote.Agreement
import StoredArray.Proofs.Remote.Commands
import StoredArray.Proofs.Remote.Serving
import StoredArray.Proofs.Session.Clones
import StoredArray.Proofs.Session.Commands
import StoredArray.Proofs.Session.InMemory
import StoredArray.Proofs.Session.Interchange
import StoredArray.Proofs.Session.Lengths
import StoredArray.Proofs.Session.Limits
import StoredArray.Proofs.Session.Moves
import StoredArray.Proofs.Slice.Bounds
import StoredArray.Proofs.Slice.Exactness
import StoredArray.Proofs.Slice.Grammar
import StoredArray.Proofs.Slice.Printing
import StoredArray.Proofs.Slice.Selection
import StoredArray.Proofs.Slice.Summaries
import StoredArray.Proofs.Store.Discipline
import StoredArray.Proofs.Store.Execution
import StoredArray.Proofs.Store.Interleaving
import StoredArray.Proofs.View.Alignment
import StoredArray.Proofs.View.Assignment
import StoredArray.Proofs.View.Availability
import StoredArray.Proofs.View.Calls
import StoredArray.Proofs.View.Containment
import StoredArray.Proofs.View.Failures
import StoredArray.Proofs.View.Interruption
import StoredArray.Proofs.View.LocalArray
import StoredArray.Proofs.View.Noninterference
import StoredArray.Proofs.View.Opening
import StoredArray.Proofs.View.Reopening
import StoredArray.Proofs.View.SingleByte
import StoredArray.Proofs.View.Stored
import StoredArray.Proofs.View.Transfer
import StoredArray.Proofs.View.Validation
import StoredArray.Proofs.View.Writers
