import Tracing.ForeignError.Excerpt

/-!
# Tracing.Failure

What can go wrong, by cause.

* `FileFault`      — what a file system refuses.
* `Failure`        — the causes: errors that outside code raised, and the library's own.
* `kind`           — the class under which a failure is reported.
* `message`        — its text.
* `unwritten?`     — what goes wrong when that text is made part of a message.
* `isInterruption` — whether it ends the work in progress instead of being reported by it.
-/

namespace Tracing

/-- What the batching processor refuses, in the order in which it checks. -/
inductive BatchFault where
  | queueSize
  | scheduleDelay
  | batchSize
  | batchAboveQueue
  deriving DecidableEq, Repr

/-- What a file system refuses. -/
inductive FileFault where
  | nameTooLong
  /-- A directory is to be made where a file stands. -/
  | alreadyThere
  /-- A path goes on below a file. -/
  | belowFile
  /-- A file is to be written where a directory stands. -/
  | isDirectory
  deriving DecidableEq, Repr

namespace FileFault

def number : FileFault → Nat
  | .nameTooLong => 36
  | .alreadyThere => 17
  | .belowFile => 20
  | .isDirectory => 21

def kind : FileFault → String
  | .nameTooLong => "OSError"
  | .alreadyThere => "FileExistsError"
  | .belowFile => "NotADirectoryError"
  | .isDirectory => "IsADirectoryError"

def reason : FileFault → String
  | .nameTooLong => "File name too long"
  | .alreadyThere => "File exists"
  | .belowFile => "Not a directory"
  | .isDirectory => "Is a directory"

end FileFault

inductive Failure where
  /-- Raised by outside code. -/
  | foreign (e : ForeignError)
  /-- A pipeline's processor raised `cause` while flushing. -/
  | exportFailed (pipeline : Value) (cause : Failure)
  /-- A pipeline's processor did not finish in time. -/
  | exportTimedOut (pipeline timeout : Value)
  /-- A pipeline was flushed after it was closed. -/
  | pipelineClosed (pipeline : Value)
  /-- Span export is on and has no endpoint. -/
  | endpointMissing
  | notPositive (field : String)
  | batchAboveQueue
  | batch (fault : BatchFault)
  /-- A length that is no whole number. -/
  | notInteger
  /-- A length beyond every length that a queue can have. -/
  | lengthTooLarge
  /-- Something other than a dictionary stands in the place of attributes. -/
  | notMapping (typeName : String)
  /-- Two values have no order. -/
  | unordered (relation left right : String)
  | notIterable (typeName : String)
  | noLength (typeName : String)
  | notContainer (typeName : String)
  /-- Something other than a text is searched in a text. -/
  | notSearchable (typeName : String)
  | unhashable (typeName : String)
  /-- An element that should be a pair has another length. -/
  | pairLength (index length : Nat)
  /-- An element that should be a pair is no sequence. -/
  | noPair (index : Nat)
  | noAttribute (typeName member : Text)
  | unexpectedArgument (owner : String) (argument : Text)
  /-- A field is given by the name under which the object itself is passed. -/
  | repeatedArgument (owner : String) (argument : Text)
  | missingName
  | noArguments (className : String)
  | notCallable (typeName : String)
  | frozenField (field : Text)
  /-- A field is asked for by something other than a text. -/
  | noFieldName (typeName : String)
  /-- Nothing has this name. -/
  | unknownName (name : Value)
  /-- An entry is to be evicted from an empty cache. -/
  | emptyCache
  | indexOutOfRange
  /-- An index beyond every length that a list can have. -/
  | indexTooLarge
  /-- An index that is no whole number. -/
  | noIndex (typeName : String)
  | file (fault : FileFault) (path : Text)
  /-- A document nests deeper than a reader goes; the bracket opened last is given. -/
  | tooDeep (isObject : Bool)
  | conflict (name : Value) (existing announced : Text)
  | alreadyRegistered (name : Value) (existing : Text)
  | notFound (name : Value) (available : List Value)
  deriving Inhabited

namespace Failure

/-- The failure that an error of outside code ends in when it is raised. -/
def ofForeign (e : ForeignError) : Failure := .foreign e.raised

def isInterruption : Failure → Bool
  | .foreign e => e.isInterruption
  | _ => false

/-- A failure as it leaves the start of a span. -/
def leavingStart : Failure → Failure
  | .foreign e => .foreign e.leavingStart
  | e => e

/-- What goes wrong when a failure is recorded with a span. Interruptions are not recorded. -/
def recordingFault? (e : Failure) : Option Failure :=
  match e with
  | .foreign error => if e.isInterruption then none else error.recordingFault?.map .foreign
  | _ => none

/-- What goes wrong when the text of a failure is made part of a message. The library's own
failures are made with their texts. -/
def unwritten? : Failure → Option Failure
  | .foreign e => e.unwritten?.map .foreign
  | _ => none

/-- A field that an object of the class `owner` does not take. -/
def ofArgument (owner : String) (argument : Text) : Failure :=
  if argument = "self" then .repeatedArgument owner argument
  else .unexpectedArgument owner argument

/-! ## Reporting -/

def kind : Failure → String
  | .foreign e => e.kind
  | .exportFailed .. => "ExportFailedError"
  | .exportTimedOut .. => "ExportTimedOutError"
  | .pipelineClosed _ => "PipelineShutdownError"
  | .endpointMissing | .notPositive _ | .batchAboveQueue | .batch _ | .pairLength ..
  | .conflict .. | .alreadyRegistered .. | .notFound .. => "ValueError"
  | .notInteger | .notMapping _ | .unordered .. | .notIterable _ | .noLength _ | .notContainer _
  | .notSearchable _ | .unhashable _ | .noPair _ | .unexpectedArgument .. | .repeatedArgument ..
  | .missingName | .noArguments _ | .notCallable _ | .noIndex _ | .noFieldName _ => "TypeError"
  | .lengthTooLarge => "OverflowError"
  | .noAttribute .. => "AttributeError"
  | .frozenField _ => "FrozenInstanceError"
  | .unknownName _ | .emptyCache => "KeyError"
  | .indexOutOfRange | .indexTooLarge => "IndexError"
  | .file fault _ => fault.kind
  | .tooDeep _ => "RecursionError"

def batchMessage : BatchFault → String
  | .queueSize => "max_queue_size must be a positive integer."
  | .scheduleDelay => "schedule_delay_millis must be positive."
  | .batchSize => "max_export_batch_size must be a positive integer."
  | .batchAboveQueue => "max_export_batch_size must be less than or equal to max_queue_size."

def message : Failure → Text
  | .foreign e => e.message
  | .exportFailed pipeline cause =>
    "pipeline " ++ pipeline.text ++ " failed to flush: " ++ message cause
  | .exportTimedOut pipeline timeout =>
    "pipeline " ++ pipeline.text ++ " did not flush within " ++ timeout.text ++ "ms"
  | .pipelineClosed pipeline => "pipeline " ++ pipeline.text ++ " is shut down"
  | .endpointMissing => "otlp_endpoint required when OTLP span export enabled"
  | .notPositive field => s!"{field} must be positive"
  | .batchAboveQueue => "max_export_batch_size must not exceed max_queue_size"
  | .batch fault => batchMessage fault
  | .notInteger => "an integer is required"
  | .lengthTooLarge => ForeignError.beyondLengths
  | .notMapping typeName => s!"mappingproxy() argument must be a mapping, not {typeName}"
  | .unordered relation left right =>
    s!"'{relation}' not supported between instances of '{left}' and '{right}'"
  | .notIterable typeName => s!"'{typeName}' object is not iterable"
  | .noLength typeName => s!"object of type '{typeName}' has no len()"
  | .notContainer typeName => s!"argument of type '{typeName}' is not iterable"
  | .notSearchable typeName => s!"'in <string>' requires string as left operand, not {typeName}"
  | .unhashable typeName => s!"unhashable type: '{typeName}'"
  | .pairLength index length =>
    s!"dictionary update sequence element #{index} has length {length}; 2 is required"
  | .noPair index => s!"cannot convert dictionary update sequence element #{index} to a sequence"
  | .noAttribute typeName member =>
    "'" ++ typeName ++ "' object has no attribute '" ++ member ++ "'"
  | .unexpectedArgument owner argument =>
    s!"{owner}.__init__() got an unexpected keyword argument '" ++ argument ++ "'"
  | .repeatedArgument owner argument =>
    s!"{owner}.__init__() got multiple values for argument '" ++ argument ++ "'"
  | .missingName => "get_tracer() missing 1 required positional argument: 'name'"
  | .noArguments className => s!"{className}() takes no arguments"
  | .notCallable typeName => s!"'{typeName}' object is not callable"
  | .noFieldName typeName => s!"attribute name must be string, not '{typeName}'"
  | .frozenField field => "cannot assign to field " ++ Text.quoted field
  | .unknownName name => name.shown
  | .emptyCache => "'dictionary is empty'"
  | .indexOutOfRange => "list index out of range"
  | .indexTooLarge => "cannot fit 'int' into an index-sized integer"
  | .noIndex typeName => s!"list indices must be integers or slices, not {typeName}"
  | .file fault path => s!"[Errno {fault.number}] {fault.reason}: " ++ Text.quoted path
  | .tooDeep isObject =>
    s!"maximum recursion depth exceeded while decoding a JSON {bracket isObject} " ++
      "from a unicode string"
  | .conflict name existing announced =>
    "Conflict: tracer provider '" ++ name.text ++ "' registered by multiple packages:\n" ++
      "  - " ++ existing ++ "\n  - " ++ announced
  | .alreadyRegistered name existing =>
    "Tracer provider '" ++ name.text ++ "' already registered as " ++ existing
  | .notFound name available =>
    "Tracer provider '" ++ name.text ++ "' not found. Available providers: " ++
      Value.shownList available
where
  bracket (isObject : Bool) : String := if isObject then "object" else "array"

/-- What raised a failure that reports another one. -/
def cause? : Failure → Option Failure
  | .exportFailed _ cause => some cause
  | _ => none

/-- The classes of tracing failures that a failure belongs to, from the most general on. -/
def families (e : Failure) : List String :=
  if e.isInterruption then []
  else
    let leaves := ["ExportFailedError", "ExportTimedOutError", "PipelineShutdownError"]
    if leaves.contains e.kind then ["Exception", "TraceError", e.kind]
    else if e.kind = "TraceError" then ["Exception", "TraceError"]
    else ["Exception"]

end Failure

end Tracing
