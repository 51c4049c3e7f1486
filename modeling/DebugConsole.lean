import DebugConsole.Adapter.Scripted
import DebugConsole.CommandLine.Run
import DebugConsole.Main
import DebugConsole.Proofs.Batches
import DebugConsole.Proofs.Completion
import DebugConsole.Proofs.Delivery
import DebugConsole.Proofs.Events
import DebugConsole.Proofs.Excerpts
import DebugConsole.Proofs.ExitStatus
import DebugConsole.Proofs.Focus
import DebugConsole.Proofs.Freshness
import DebugConsole.Proofs.Guards
import DebugConsole.Proofs.Headers
import DebugConsole.Proofs.Hits
import DebugConsole.Proofs.Intent
import DebugConsole.Proofs.Interchange
import DebugConsole.Proofs.Latecomers
import DebugConsole.Proofs.Leftovers
import DebugConsole.Proofs.Levels
import DebugConsole.Proofs.Locations
import DebugConsole.Proofs.Memoisation
import DebugConsole.Proofs.Namesakes
import DebugConsole.Proofs.Numbers
import DebugConsole.Proofs.Pairing
import DebugConsole.Proofs.Prompt
import DebugConsole.Proofs.Reencoding
import DebugConsole.Proofs.Resumption
import DebugConsole.Proofs.Rollback
import DebugConsole.Proofs.Routing
import DebugConsole.Proofs.Scopes
import DebugConsole.Proofs.Selections
import DebugConsole.Proofs.Statuses
import DebugConsole.Proofs.Stranding
import DebugConsole.Proofs.Succession
import DebugConsole.Proofs.Truncation
import DebugConsole.Proofs.Verbatim
import DebugConsole.Proofs.Verification
import DebugConsole.Proofs.Windows
