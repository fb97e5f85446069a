import UserFs.Cache.Expiration
import UserFs.Cache.Policy
import UserFs.Clock
import UserFs.Error
import UserFs.Error.OsText
import UserFs.Error.System
import UserFs.Handle.Id
import UserFs.Handle.Table
import UserFs.Handler.Basic
import UserFs.Handler.Recorder
import UserFs.Handler.Unsupported
import UserFs.Inode.Attributes
import UserFs.Inode.Id
import UserFs.Inode.Shard
import UserFs.Inode.Table
import UserFs.KeyMap
import UserFs.Log
import UserFs.Name
import UserFs.OpenFlags
import UserFs.Reply.Answer
import UserFs.Reply.Entry
import UserFs.Request
import UserFs.Session
import UserFs.Text.CodePoints
import UserFs.Text.DefaultIgnorable
import UserFs.Text.ExtendingMarks
import UserFs.Text.Numeral
import UserFs.Text.Quoted
import UserFs.Text.Unprintable
import UserFs.Text.Utf8
import UserFs.Tree.Addition
import UserFs.Tree.Basic
import UserFs.TreeFs.Basic
import UserFs.TreeFs.Handler
import UserFs.TreeFs.Refusal
import UserFs.Proofs.Inode.Numbering
import UserFs.Proofs.Inode.Consistency
import UserFs.Proofs.Inode.Incarnations
import UserFs.Proofs.Inode.Ledger
import UserFs.Proofs.Inode.Representation
import UserFs.Proofs.Inode.Operation
import UserFs.Proofs.Inode.Renumbering
import UserFs.Proofs.Inode.Sharding
import UserFs.Proofs.Inode.Tally
import UserFs.Proofs.Inode.Capacity
import UserFs.Proofs.Tree.Shape
import UserFs.Proofs.Tree.PathMap
import UserFs.Proofs.Tree.Refinement
import UserFs.Proofs.TreeFs.Books
import UserFs.Proofs.TreeFs.Promises
import UserFs.Proofs.TreeFs.Paths
import UserFs.Proofs.TreeFs.Responses
import UserFs.Proofs.TreeFs.WellFormed
import UserFs.Proofs.Cache.Window
import UserFs.Proofs.Cache.Deadline
import UserFs.Proofs.Handle.Numbers
import UserFs.Proofs.TreeFs.Handles
import UserFs.Proofs.TreeFs.NoTrace
import UserFs.Proofs.Handle.Lifecycle
import UserFs.Proofs.Handler.Delegation
import UserFs.Proofs.Session.Acknowledged
import UserFs.Proofs.Cache.WireTime
import UserFs.Proofs.Inode.Batches
import UserFs.Proofs.Tree.Spelling
import UserFs.Proofs.TreeFs.Lookups
import UserFs.Proofs.TreeFs.DotEntries
import UserFs.Proofs.TreeFs.Directories
import UserFs.Proofs.Inode.Peak
import UserFs.Proofs.Inode.Queue
import UserFs.Proofs.Tree.Ignored
import UserFs.Proofs.TreeFs.Additions
import UserFs.Proofs.Session.ErrorNumbers
import UserFs.Proofs.Tree.Ancestry
import UserFs.Proofs.TreeFs.Hierarchy
