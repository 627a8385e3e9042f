import Tracing.Options.Load
import Tracing.Proofs.Availability
import Tracing.Proofs.Capacity
import Tracing.Proofs.ClosedOnce
import Tracing.Proofs.Construction
import Tracing.Proofs.CutShort
import Tracing.Proofs.Declined
import Tracing.Proofs.Disabled
import Tracing.Proofs.Endpoints
import Tracing.Proofs.ExitHooks
import Tracing.Proofs.Exported
import Tracing.Proofs.Flush
import Tracing.Proofs.Inclusion
import Tracing.Proofs.Escapes
import Tracing.Proofs.Issuing
import Tracing.Proofs.LatePipelines
import Tracing.Proofs.LateSpans
import Tracing.Proofs.Misfits
import Tracing.Proofs.NameLists
import Tracing.Proofs.Precedence
import Tracing.Proofs.Receivers
import Tracing.Proofs.Repetition
import Tracing.Proofs.Requests
import Tracing.Proofs.RoundTrip
import Tracing.Proofs.Shutdown
import Tracing.Proofs.Slot
import Tracing.Proofs.Stopped
import Tracing.Proofs.Transparency
import Tracing.Script
