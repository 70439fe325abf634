import DirectoryClient.Address
import DirectoryClient.Cursor.Access
import DirectoryClient.Factory.Pooling
import DirectoryClient.Message.Reader
import DirectoryClient.Message.Writer
import DirectoryClient.PasswordPolicy.Codec
import DirectoryClient.Pool.Activity
import DirectoryClient.Scenario.Counter
import DirectoryClient.Scenario.SearchDesk
import DirectoryClient.Scenario.Session
import DirectoryClient.Search.Entry
import DirectoryClient.Settings.Connection
import DirectoryClient.Settings.Pool
import DirectoryClient.Text.Duration
import DirectoryClient.Proofs.Connection.BoundWith
import DirectoryClient.Proofs.Connection.Lookups
import DirectoryClient.Proofs.Connection.OneShot
import DirectoryClient.Proofs.Connection.Unbinding
import DirectoryClient.Proofs.Cursor.Iteration
import DirectoryClient.Proofs.Cursor.Moves
import DirectoryClient.Proofs.Cursor.Draining
import DirectoryClient.Proofs.Cursor.WholeRuns
import DirectoryClient.Proofs.Factory.OwnIdentity
import DirectoryClient.Proofs.Factory.PendingModifiers
import DirectoryClient.Proofs.Factory.Verdict
import DirectoryClient.Proofs.Link.Bookkeeping
import DirectoryClient.Proofs.Link.Chunks
import DirectoryClient.Proofs.Link.Notices
import DirectoryClient.Proofs.Link.Orderly
import DirectoryClient.Proofs.Message.Numbers
import DirectoryClient.Proofs.Message.Responses
import DirectoryClient.Proofs.Message.RoundTrip
import DirectoryClient.Proofs.MessageIds.Circle
import DirectoryClient.Proofs.PasswordPolicy.Components
import DirectoryClient.Proofs.Pool.Bound
import DirectoryClient.Proofs.Pool.ClosedPool
import DirectoryClient.Proofs.Pool.Conservation
import DirectoryClient.Proofs.Pool.EvictionPass
import DirectoryClient.Proofs.Pool.Separation
import DirectoryClient.Proofs.Pool.Sequence
import DirectoryClient.Proofs.Pool.Wakeups
import DirectoryClient.Proofs.Search.Filing
import DirectoryClient.Proofs.Slot.OrderedStream
import DirectoryClient.Proofs.Slot.SingleAssignment
