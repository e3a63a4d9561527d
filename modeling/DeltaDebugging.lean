import DeltaDebugging.Data.Json
import DeltaDebugging.Graph.Minimize
import DeltaDebugging.Hierarchy.Tree
import DeltaDebugging.Main
import DeltaDebugging.Memo
import DeltaDebugging.Proofs.Algorithm.Conditioning
import DeltaDebugging.Proofs.Algorithm.Confirmed
import DeltaDebugging.Proofs.Algorithm.OneMinimal
import DeltaDebugging.Proofs.Algorithm.Rounds
import DeltaDebugging.Proofs.Graph.Classes
import DeltaDebugging.Proofs.Graph.Condensation
import DeltaDebugging.Proofs.Graph.Confirmed
import DeltaDebugging.Proofs.Graph.Dependencies
import DeltaDebugging.Proofs.Graph.Depths
import DeltaDebugging.Proofs.Graph.Flat
import DeltaDebugging.Proofs.Graph.Grouping
import DeltaDebugging.Proofs.Graph.Minimal
import DeltaDebugging.Proofs.Graph.Quotient
import DeltaDebugging.Proofs.Hierarchy.Accounts
import DeltaDebugging.Proofs.Hierarchy.Cancelled
import DeltaDebugging.Proofs.Hierarchy.Forest
import DeltaDebugging.Proofs.Hierarchy.Remembered
import DeltaDebugging.Proofs.Hierarchy.Visits
import DeltaDebugging.Proofs.Reduction
import DeltaDebugging.Proofs.Reduction.Accepted
import DeltaDebugging.Proofs.Reduction.Bookkeeping
import DeltaDebugging.Proofs.Reduction.Caching
import DeltaDebugging.Proofs.Snapshot.Atomicity
import DeltaDebugging.Proofs.Snapshot.Courses
import DeltaDebugging.Proofs.Snapshot.Focus
import DeltaDebugging.Proofs.Text.Rendering
import DeltaDebugging.Reduction
import DeltaDebugging.Snapshot.SameFailure
import DeltaDebugging.Tester
