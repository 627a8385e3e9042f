import Tracing.Failure

/-!
# Tracing.FlushReport

The outcome of flushing one pipeline, reported as data: the pipeline's name and what failed.
-/

namespace Tracing

structure FlushReport where
  pipeline : Value
  failure : Option Failure := none
  deriving Inhabited

namespace FlushReport

def ok (r : FlushReport) : Bool := r.failure.isNone

def success (pipeline : Value) : FlushReport := { pipeline }

def failed (pipeline : Value) (failure : Failure) : FlushReport :=
  { pipeline, failure := some failure }

/-- The names of the pipelines that failed, in order. -/
def failedNames (reports : List FlushReport) : List Value :=
  (reports.filter (!·.ok)).map (·.pipeline)

end FlushReport

/-! ## Listed reports

In a list of reports a failure may be given as the one of another entry. Two reports are equal if
they name the same pipeline and hold the same failure, a failure being the same only as itself. -/

/-- What an entry of a list says of its failure. -/
inductive ReportedFailure where
  | none
  | own (e : ForeignError)
  | ofEntry (index : Int)
  deriving Inhabited

structure ReportEntry where
  pipeline : Value
  failure : ReportedFailure
  deriving Inhabited

/-- The place that an index means in a list of this length; negative ones count from its end. -/
def placeOf (length : Nat) (index : Int) : Int := if index < 0 then length + index else index

/-- The entry of a list at an index. -/
def entryAt {α : Type} (items : List α) (index : Int) : Except Failure α :=
  let place := placeOf items.length index
  if !ForeignError.isMachineInteger index then .error .indexTooLarge
  else if place < 0 then .error .indexOutOfRange
  else
    match items[place.toNat]? with
    | some entry => .ok entry
    | none => .error .indexOutOfRange

/-- A report and the number of the entry that its failure was raised for. -/
structure ListedReport where
  report : FlushReport
  origin : Option Nat
  deriving Inhabited

namespace ListedReport

def same (a b : ListedReport) : Bool :=
  a.report.pipeline.same b.report.pipeline && a.origin == b.origin

/-- The report of an entry that follows the reports `done`, in which it looks for a failure that it
shares. -/
def next (done : List ListedReport) (entry : ReportEntry) : Except Failure ListedReport :=
  match entry.failure with
  | .none => .ok ⟨.success entry.pipeline, none⟩
  | .own e =>
    match e.refusal? with
    | none => .ok ⟨.failed entry.pipeline (.foreign e), some done.length⟩
    | some refusal => .error (.foreign refusal)
  | .ofEntry index =>
    match entryAt done index with
    | .ok earlier => .ok ⟨{ earlier.report with pipeline := entry.pipeline }, earlier.origin⟩
    | .error e => .error e

def following (done : List ListedReport) : List ReportEntry → Except Failure (List ListedReport)
  | [] => .ok done
  | entry :: rest =>
    match next done entry with
    | .ok report => following (done ++ [report]) rest
    | .error e => .error e

/-- What goes wrong when the failure of a report is shown. -/
def unshown? (r : ListedReport) : Option ForeignError :=
  match r.report.failure with
  | some (.foreign e) => e.unshown?
  | _ => none

/-- The reports of the entries, which are to be shown. -/
def ofEntries (entries : List ReportEntry) : Except Failure (List ListedReport) := do
  let reports ← following [] entries
  match reports.findSome? unshown? with
  | none => return reports
  | some e => throw (.foreign e)

/-- What is answered to a change of the first report's pipeline: reports do not change. -/
def changeFirst (reports : List ListedReport) : Failure :=
  if reports.isEmpty then .indexOutOfRange else .frozenField "pipeline"

/-- Which reports are equal, row by row. -/
def equalities (reports : List ListedReport) : List (List Bool) :=
  reports.map fun a => reports.map fun b => a.same b

end ListedReport

end Tracing
