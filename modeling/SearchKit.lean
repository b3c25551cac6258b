import SearchKit.Engine.Routing
import SearchKit.Manifest.Instance
import SearchKit.Query.Builder
import SearchKit.Proofs.Query.Refinement
import SearchKit.Proofs.Query.Repetition
import SearchKit.Proofs.Result.Reconciliation
import SearchKit.Proofs.Write.SoftDeletion
import SearchKit.Proofs.Result.Ranking
import SearchKit.Proofs.Session.Pulling
import SearchKit.Proofs.Result.Deferral
import SearchKit.Proofs.Write.Sending
import SearchKit.Proofs.Write.Updating
import SearchKit.Proofs.Write.Deleting
import SearchKit.Proofs.Engine.Delegation
import SearchKit.Proofs.Engine.Fallback
import SearchKit.Proofs.Engine.Forwarding
import SearchKit.Proofs.Engine.EntryPoints
import SearchKit.Proofs.Engine.Connections
import SearchKit.Proofs.Engine.Runs
import SearchKit.Proofs.Write.Hiding
import SearchKit.Proofs.Engine.Closing
import SearchKit.Proofs.Engine.Defaults
import SearchKit.Proofs.Engine.Sharing
import SearchKit.Proofs.Query.Words
import SearchKit.Proofs.Query.Bounds
import SearchKit.Proofs.Engine.Searching
import SearchKit.Proofs.Index.Layering
import SearchKit.Proofs.Session.Settling
import SearchKit.Proofs.Query.Native
import SearchKit.Proofs.Write.Decoding
import SearchKit.Proofs.Write.Framing
import SearchKit.Proofs.Index.Merging
import SearchKit.Proofs.Manifest.References
import SearchKit.Proofs.Call.Coercion
import SearchKit.Proofs.Manifest.Loading
import SearchKit.Proofs.Manifest.Wiring
import SearchKit.Proofs.Engine.Paging
import SearchKit.Proofs.Query.Buckets
