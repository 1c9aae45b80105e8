import Pipework.Failure
import Pipework.Journal
import Pipework.Machine
import Pipework.Rehearsal
import Pipework.Proofs.Journal.Calls
import Pipework.Proofs.Journal.Records
import Pipework.Proofs.Calls.Program
import Pipework.Proofs.Calls.Wiring
import Pipework.Proofs.Calls.Execution
import Pipework.Proofs.Ownership.Accounts
import Pipework.Proofs.Ownership.Stages
import Pipework.Proofs.Ownership.Lifetime
import Pipework.Proofs.Calls.Segments
import Pipework.Proofs.Phases
import Pipework.Proofs.Topology
import Pipework.Proofs.Stdio.Actions
import Pipework.Proofs.Inheritance
import Pipework.Proofs.Arguments
import Pipework.Proofs.Calls.Failures
import Pipework.Proofs.Calls.Retracing
import Pipework.Proofs.Calls.Advance
import Pipework.Proofs.FirstFailure
import Pipework.Proofs.Continuation
import Pipework.Proofs.Likeness
import Pipework.Proofs.Outcomes
import Pipework.Proofs.Guarded
import Pipework.Proofs.Realisation
import Pipework.Proofs.Calls.Redirections
import Pipework.Proofs.Conditions
import Pipework.Proofs.Assignment
import Pipework.Proofs.Invocation
import Pipework.Proofs.ProgramSearch
import Pipework.Proofs.Ownership.Balance
import Pipework.Proofs.Ownership.Chain
import Pipework.Proofs.Stdio.Connections
import Pipework.Proofs.Ownership.Sharing
import Pipework.Proofs.Ownership.Redirections
import Pipework.Proofs.Exchange
import Pipework.Proofs.WrittenEnvironment
import Pipework.Proofs.SearchPath
import Pipework.Proofs.FileSearch
import Pipework.Proofs.Causes
