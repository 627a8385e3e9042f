import Tracing.Options
import Tracing.Wording

/-!
# Tracing.Endpoint

Where spans are exported to.

* `Endpoint.ofOptions` — the endpoint with its scheme, and whether the channel is insecure. A
  scheme in the given endpoint wins over the flag for transport security.
* `BatchOptions.checkSizes` — what the batching processor demands of the batch options.
-/

namespace Tracing

structure Endpoint where
  url : Text
  insecure : Bool
  deriving DecidableEq, Repr

namespace Endpoint

def schemeMark : String := "://"

def insecureScheme : String := "http://"

/-- A given endpoint with a scheme must be a text; any other value that lacks the mark is written
behind the scheme, if it can be. -/
def ofOptions (o : Options) : Except Failure Endpoint := do
  if ← o.otlpEndpoint.contains (.str schemeMark) then
    match o.otlpEndpoint with
    | .str url => return { url, insecure := url.startsWith insecureScheme }
    | v => throw (.noAttribute v.typeName "startswith")
  else
    let insecure := !o.otlpUseTls.isTruthy
    let scheme := if insecure then insecureScheme else "https://"
    let url ← ((scheme : Wording) ++ o.otlpEndpoint.wording).written
    return { url, insecure }

end Endpoint

namespace BatchOptions

/-- A size that is null stands for a default. -/
def sizeOr (size default : Value) : Value :=
  match size with
  | .null => default
  | v => v

def refuse (fault : BatchFault) (refused : Bool) : Except Failure Unit :=
  if refused then .error (.batch fault) else .ok ()

/-- The most entries that a queue can have. -/
def maxLength : Int := Nat.pow 2 63 - 1

/-- The length of a queue is a whole number. -/
def checkLength (queue : Value) : Except Failure Unit :=
  match queue with
  | .float _ => .error .notInteger
  | .int n => if maxLength < n then .error .lengthTooLarge else .ok ()
  | _ => .ok ()

/-- The demands, in the order in which they are checked. -/
def checkSizes (b : BatchOptions) : Except Failure Unit := do
  let queue := sizeOr b.maxQueueSize (.int 2048)
  let delay := sizeOr b.scheduleDelay (.int 5000)
  let batch := sizeOr b.maxExportBatchSize (.int 512)
  refuse .queueSize (← queue.atMost (.int 0))
  refuse .scheduleDelay (← delay.atMost (.int 0))
  refuse .batchSize (← batch.atMost (.int 0))
  refuse .batchAboveQueue (← batch.exceeds queue)
  checkLength queue

end BatchOptions

end Tracing
