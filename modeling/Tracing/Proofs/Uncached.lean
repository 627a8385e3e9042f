import Tracing.Proofs.Programs
import Tracing.Proofs.Tracers

/-!
# Tracing.Proofs.Uncached

What programs see, apart from what concerns the cache of tracers.

* `Recorder.uncached` — a recorder without the tracers it keeps, their limit and their counts.
* `Reply.uncached`    — a reply without those counts and without the records of the cache.
* `Event.uncached`    — the journal without the making of tracers.
* `calls_eq`, `callsSeen_eq` — the calls of processors can be read off that.
-/

namespace Tracing

namespace Options

/-- Options but for the number of tracers to be kept. -/
def uncached (o : Options) : Options := { o with maxCachedTracers := .null }

end Options

namespace Recorder

def uncached (x : Recorder) : Recorder :=
  { x with options := x.options.uncached, tracers := {}, hits := 0, misses := 0 }

end Recorder

def Stats.uncached (s : Stats) : Stats := { s with hits := 0, misses := 0, kept := 0 }

/-- The log records that do not concern the cache. -/
def uncachedLog (log : List LogRecord) : List LogRecord := log.filter (!·.isOfCache)

mutual

/-- An answer without what the cache counts, in the body of a span as well. -/
def Answer.uncached : Answer → Answer
  | .stats s => .stats s.uncached
  | .span recording sampled body => .span recording sampled (uncachedBody body)
  | a => a

def uncachedBody : Option (List (Answer × List LogRecord)) → Option (List Reply)
  | none => none
  | some replies => some (uncachedReplies replies)

def uncachedReplies : List (Answer × List LogRecord) → List Reply
  | [] => []
  | r :: rest => uncachedReply r :: uncachedReplies rest

def uncachedReply : Answer × List LogRecord → Reply
  | (a, log) => (a.uncached, uncachedLog log)

end

/-- An event, unless a tracer is made. -/
def Event.uncached : Event → Option Event
  | .issued _ _ => none
  | .answered call replies => some (.answered call (uncachedReplies replies))
  | e => some e

def uncachedJournal (journal : List Event) : List Event := journal.filterMap Event.uncached

@[simp] theorem uncachedLog_append (a b : List LogRecord) :
    uncachedLog (a ++ b) = uncachedLog a ++ uncachedLog b :=
  List.filter_append ..

theorem uncachedLog_ofCache {records : List LogRecord} (h : OfCache records) :
    uncachedLog records = [] := by
  rw [uncachedLog, List.filter_eq_nil_iff]
  intro x hx
  simp [h x hx]

@[simp] theorem uncachedJournal_append (a b : List Event) :
    uncachedJournal (a ++ b) = uncachedJournal a ++ uncachedJournal b :=
  List.filterMap_append

/-! ## Calls -/

namespace World

/-- The calls that a processor received, with what their hooks replied apart from the cache. -/
def callsSeen (w : World) (q : Ref Processor) : List (Call × Option (List Reply)) :=
  (w.callsOf q).map fun (call, replies) => (call, replies.map uncachedReplies)

theorem calls_uncached (w : World) :
    ({ w with journal := uncachedJournal w.journal } : World).calls = w.calls := by
  simp only [calls, uncachedJournal, List.filterMap_filterMap]
  congr 1
  funext e
  cases e <;> rfl

theorem hookReplies_uncached (w : World) (number : Nat) :
    ({ w with journal := uncachedJournal w.journal } : World).hookReplies number =
      (w.hookReplies number).map uncachedReplies := by
  simp only [hookReplies, uncachedJournal]
  induction w.journal with
  | nil => rfl
  | cons e rest ih =>
    cases e with
    | answered call replies =>
      rw [List.filterMap_cons, Event.uncached, List.findSome?_cons, List.findSome?_cons]
      by_cases h : call = number
      · simp [h]
      · simpa [h] using ih
    | _ => exact ih

/-- Worlds that differ by the cache alone have the same calls. -/
theorem calls_eq {w w' : World} (h : uncachedJournal w'.journal = uncachedJournal w.journal) :
    w'.calls = w.calls := by
  rw [← calls_uncached w', ← calls_uncached w]
  simp only [calls, h]

theorem callsSeen_eq {w w' : World} (h : uncachedJournal w'.journal = uncachedJournal w.journal)
    (q : Ref Processor) : w'.callsSeen q = w.callsSeen q := by
  have replies : ∀ number, (w'.hookReplies number).map uncachedReplies =
      (w.hookReplies number).map uncachedReplies := by
    intro number
    rw [← hookReplies_uncached, ← hookReplies_uncached]
    simp only [hookReplies, h]
  simp only [callsSeen, callsOf, calls_eq h, List.map_filterMap]
  congr 1
  funext ⟨⟨p, call⟩, number⟩
  by_cases hp : p = q
  · simp [hp, replies]
  · simp [hp]

end World

end Tracing
