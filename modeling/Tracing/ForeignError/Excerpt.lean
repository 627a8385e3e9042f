import Tracing.ForeignError

/-!
# Tracing.ForeignError.Excerpt

An error in the text of a program is recorded with an excerpt: the line without the blanks that it
begins with, and under it a mark from one column to another, the first of which is column one.

* `Excerpt`        — what the details of an error say of its excerpt.
* `Excerpt.mark`   — the making of the mark. It fails if the columns are no whole numbers.
* `recordingFault?` — what goes wrong when an error is recorded.
-/

namespace Tracing

namespace ForeignError

structure Excerpt where
  line : Value
  column : Value
  /-- The column behind the mark. -/
  stop : Value

/-- The excerpt of an error whose details give one. -/
def excerpt? (e : ForeignError) : Option Excerpt :=
  match e.args with
  | [_, details] =>
    if sourceErrors.contains e.className then
      match details.elements? with
      | some [_, _, column, line] => some ⟨line, column, .null⟩
      | some [_, _, column, line, _, stop] => some ⟨line, column, stop⟩
      | _ => none
    else none
  | _ => none

/-! ## Columns -/

/-- A column as a number: a whole one, or another. -/
inductive Column where
  | whole (n : Int)
  | real (x : Binary64)

/-- A value that columns are counted off from. -/
def columnOf : Value → Except ForeignError Column
  | .bool b => .ok (.whole (if b then 1 else 0))
  | .int n => .ok (.whole n)
  | .float x => .ok (.real x)
  | v => .error (typeError s!"unsupported operand type(s) for -: '{v.typeName}' and 'int'")

/-- The column behind a column. -/
def columnBehind : Value → Except ForeignError Value
  | .bool b => .ok (.int (if b then 2 else 1))
  | .int n => .ok (.int (n + 1))
  | .float x => .ok (.float x)
  | .str _ => .error (notJoined "str")
  | .list _ => .error (notJoined "list")
  | v => .error (typeError s!"unsupported operand type(s) for +: '{v.typeName}' and 'int'")
where
  notJoined (kind : String) : ForeignError :=
    typeError s!"can only concatenate {kind} (not \"int\") to {kind}"

namespace Excerpt

/-- Where the mark stops: one column behind its start, unless the details say otherwise. -/
def stopColumn (x : Excerpt) : Except ForeignError Value :=
  match x.stop.key? with
  | none => .error (typeError s!"unhashable type: '{x.stop.typeName}'")
  | some _ =>
    let stop := if x.stop.same .null || x.stop.same (.int 0) then x.column else x.stop
    if x.column.same stop || stop.same (.int (-1)) then columnBehind x.column else .ok stop

/-- Whether a character is left out in front of a line. -/
def isIndent (c : CodePoint) : Bool := c == ' ' || c == '\n' || c == '\x0c'

/-- The number of blanks in front of a line. Line feeds at its end are none of it. -/
def indent (line : Text) : Nat :=
  ((line.points.reverse.dropWhile fun c : CodePoint => c = '\n').reverse.takeWhile isIndent).length

/-- The widest mark for which there is room. -/
def maxWidth : Int := Nat.pow 2 47

/-- Make a mark, if it starts within the line shown. -/
def markBetween (indent : Nat) : Column → Column → Except ForeignError Unit
  | .real x, _ =>
    match x.compareInt (1 + indent) with
    | none | some .lt => .ok ()
    | _ => .error (typeError
        "slice indices must be integers or None or have an __index__ method")
  | .whole first, last =>
    if first < 1 + indent then .ok ()
    else
      match last with
      | .real _ =>
        if (Binary64.ofDecimal false (first - 1 - indent).toNat 0).isInfinite then
          .error (overflowError "int too large to convert to float")
        else .error (typeError "can't multiply sequence by non-int of type 'float'")
      | .whole last =>
        let width := last - first
        if !isMachineInteger width then
          .error (overflowError "cannot fit 'int' into an index-sized integer")
        else if maxWidth ≤ width then .error ⟨"MemoryError", []⟩
        else .ok ()

/-- Make the excerpt. Without a line there is none, and without a column no mark. -/
def mark (x : Excerpt) : Except ForeignError Unit :=
  match x.line, x.column with
  | .null, _ => .ok ()
  | .str _, .null => .ok ()
  | .str line, column => do
    let stop ← x.stopColumn
    let first ← columnOf column
    let last ← columnOf stop
    markBetween (indent line) first last
  | v, _ => .error ⟨"AttributeError",
      [.str s!"'{v.typeName}' object has no attribute 'rstrip'"]⟩

end Excerpt

/-- What goes wrong when an error is recorded. -/
def recordingFault? (e : ForeignError) : Option ForeignError :=
  match e.excerpt? with
  | none => e.unshown?
  | some x =>
    match x.mark with
    | .ok () => none
    | .error fault => some fault

end ForeignError

end Tracing
