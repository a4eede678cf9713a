import EnvRegistry.Main
import EnvRegistry.Proofs.CommandLine.Layout
import EnvRegistry.Proofs.Config.File
import EnvRegistry.Proofs.Database.Agreement
import EnvRegistry.Proofs.Database.Commit
import EnvRegistry.Proofs.Database.Consistency
import EnvRegistry.Proofs.Database.Ids
import EnvRegistry.Proofs.Database.NewEnvironment
import EnvRegistry.Proofs.Database.Order
import EnvRegistry.Proofs.Database.Singles
import EnvRegistry.Proofs.Database.Visits
import EnvRegistry.Proofs.KeySet.Registers
import EnvRegistry.Proofs.Relations.Assignment
import EnvRegistry.Proofs.Relations.Batch
import EnvRegistry.Proofs.Relations.Deferral
import EnvRegistry.Proofs.Relations.Exactness
import EnvRegistry.Proofs.Relations.Frame
import EnvRegistry.Proofs.Relations.Interchange
import EnvRegistry.Proofs.Relations.Membership
import EnvRegistry.Proofs.Relations.Naming
import EnvRegistry.Proofs.Relations.Permutation
import EnvRegistry.Proofs.Relations.Progress
import EnvRegistry.Proofs.Relations.Reassignment
import EnvRegistry.Proofs.Relations.Repetition
import EnvRegistry.Proofs.Relations.Retry
import EnvRegistry.Proofs.Relations.Traffic
import EnvRegistry.Proofs.Shell.Hook
import EnvRegistry.Proofs.Shell.Pattern
import EnvRegistry.Proofs.Store.Counted
import EnvRegistry.Proofs.Store.Without
import EnvRegistry.Proofs.Wire
