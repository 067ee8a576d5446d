import ExprTree.Arena.Inspect
import ExprTree.Key
import ExprTree.Workspace
import ExprTree.Proofs.Except
import ExprTree.Proofs.NodeChecks
import ExprTree.Proofs.OrderedTree
import ExprTree.Proofs.Tour
import ExprTree.Proofs.Uses
import ExprTree.Proofs.WellFormed
import ExprTree.Proofs.Profile
import ExprTree.Proofs.Unfolding
import ExprTree.Proofs.Agreement
import ExprTree.Proofs.Spelling
import ExprTree.Proofs.Interning
import ExprTree.Proofs.Matching
import ExprTree.Proofs.Reachability
import ExprTree.Proofs.Equality
import ExprTree.Proofs.Totality
import ExprTree.Proofs.Preservation
import ExprTree.Proofs.FirstDifference
import ExprTree.Proofs.Growth
import ExprTree.Proofs.Renaming
import ExprTree.Proofs.Stability
import ExprTree.Proofs.Unambiguity
import ExprTree.Proofs.Naming
import ExprTree.Proofs.Storing
import ExprTree.Proofs.Building
import ExprTree.Proofs.BuilderRuns
import ExprTree.Proofs.Codec
import ExprTree.Proofs.InternerDocuments
import ExprTree.Proofs.Serialization
import ExprTree.Proofs.Classes
import ExprTree.Proofs.Outcome
import ExprTree.Proofs.Mirror
import ExprTree.Proofs.Checks
import ExprTree.Proofs.Preorder
import ExprTree.Proofs.FirstDefect
import ExprTree.Proofs.Lookups
import ExprTree.Proofs.FirstFault
import ExprTree.Proofs.Blocks
import ExprTree.Proofs.Paths
import ExprTree.Proofs.ListingShape
import ExprTree.Proofs.Alignment
import ExprTree.Proofs.Visits
import ExprTree.Proofs.ParallelTables
import ExprTree.Proofs.TracedComparison
import ExprTree.Proofs.LockStep
import ExprTree.Proofs.SideTables
import ExprTree.Proofs.ChildPlaces
