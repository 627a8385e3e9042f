import Tracing.Failure

/-!
# Tracing.Wording

Texts that the library puts together. A value or a failure in one of them may have no text, and then
something else goes wrong in place of it.

* `Wording`         — a text, and what goes wrong when it is put together.
* `Value.wording`, `Failure.wording` — a value and a failure as parts of one.
* `Failure.escape?` — what leaves a handler that writes the failure into a record.
* `Value.unwritten?_escape?`, `Failure.unwritten?_escape?` — what goes wrong with a text is a failure
  like any other, and has a text itself.
-/

namespace Tracing

structure Wording where
  text : Text
  fault? : Option Failure := none
  deriving Inhabited

namespace Wording

instance : Coe Text Wording := ⟨fun text => { text }⟩

instance : Coe String Wording := ⟨fun s => { text := s }⟩

/-- What goes wrong in the first part comes first. -/
def append (a b : Wording) : Wording := ⟨a.text ++ b.text, a.fault?.or b.fault?⟩

instance : Append Wording := ⟨append⟩

@[simp] theorem text_append (a b : Wording) : (a ++ b).text = a.text ++ b.text := rfl

@[simp] theorem fault?_append (a b : Wording) : (a ++ b).fault? = a.fault?.or b.fault? := rfl

/-- The text, if it can be put together. -/
def written (m : Wording) : Except Failure Text :=
  match m.fault? with
  | none => .ok m.text
  | some e => .error e

end Wording

namespace Value

/-- What goes wrong when a value is made part of a message. -/
def unwritten? (v : Value) : Option Failure := v.obstacle?.map fun o => .foreign (.ofObstacle o)

/-- A value inside a message. -/
def wording (v : Value) : Wording := ⟨v.text, v.unwritten?⟩

/-- A value as it is shown. -/
def shownWording (v : Value) : Wording := ⟨v.shown, v.unwritten?⟩

/-- A pair of values as it is shown. -/
def pairWording (a b : Value) : Wording := ⟨shownPair a b, a.unwritten?.or b.unwritten?⟩

/-- A list of values as it is shown. It is written one call further out than its values are when
they stand alone, so that it may nest one level deeper. -/
def listWording (vs : List Value) : Wording := ⟨shownList vs, vs.findSome? unwritten?⟩

end Value

namespace Failure

/-- A failure inside a message. -/
def wording (e : Failure) : Wording := ⟨e.message, e.unwritten?⟩

/-- What leaves a handler that writes a failure into a record: an interruption is not handled, and
the text of the failure may be missing. -/
def escape? (e : Failure) : Option Failure := if e.isInterruption then some e else e.unwritten?

theorem escape?_eq_none {e : Failure} :
    e.escape? = none ↔ e.isInterruption = false ∧ e.unwritten? = none := by
  cases h : e.isInterruption <;> simp [escape?, h]

theorem escape?_ofObstacle (o : Obstacle) : escape? (.foreign (.ofObstacle o)) = none := by
  cases o <;> rfl

theorem unwritten?_escape? {e fault : Failure} (h : e.unwritten? = some fault) :
    fault.escape? = none := by
  cases e with
  | foreign e =>
    obtain ⟨error, he, rfl⟩ := Option.map_eq_some_iff.mp h
    unfold ForeignError.unwritten? ForeignError.faultOf? at he
    split at he
    · cases he
      rfl
    · obtain ⟨o, -, rfl⟩ := Option.map_eq_some_iff.mp he
      exact escape?_ofObstacle o
  | _ => cases h

end Failure

theorem Value.unwritten?_escape? {v : Value} {fault : Failure} (h : v.unwritten? = some fault) :
    fault.escape? = none := by
  obtain ⟨o, -, rfl⟩ := Option.map_eq_some_iff.mp h
  exact Failure.escape?_ofObstacle o

end Tracing
