import Tracing.Binary64.Shortest
import Tracing.Text.Quoted
import Tracing.Value

/-!
# Tracing.Value.Display

Values as texts.

* `shown`     — as an element of a listing: texts quoted, lists in brackets, dictionaries in braces.
* `text`      — inside a message: a text stands for itself, every other value as it is shown.
* `obstacle?` — why a value cannot be shown, if it cannot.
-/

namespace Tracing

/-- Why a value has no text. -/
inductive Obstacle where
  /-- A whole number in it has too many digits. -/
  | digits
  /-- Lists and dictionaries nest too deep in it. -/
  | nesting
  deriving DecidableEq, Repr

namespace Value

/-- Pieces between brackets, with a comma and a space between them. -/
def enclosed (opening closing : String) (pieces : List Text) : Text :=
  opening ++ Text.intercalate ", " pieces ++ closing

mutual

def shown : Value → Text
  | .null => "None"
  | .bool true => "True"
  | .bool false => "False"
  | .int n => Text.ofInt n
  | .float x => x.render
  | .str s => Text.quoted s
  | .list items => enclosed "[" "]" (shownItems items)
  | .dict entries => enclosed "\x7b" "\x7d" (shownEntries entries)

def shownItems : List Value → List Text
  | [] => []
  | v :: rest => shown v :: shownItems rest

def shownEntries : List (Value × Value) → List Text
  | [] => []
  | e :: rest => shownEntry e :: shownEntries rest

def shownEntry : Value × Value → Text
  | (k, v) => shown k ++ ": " ++ shown v

end

def text : Value → Text
  | .str s => s
  | v => v.shown

/-- A pair of values as a listing shows it. -/
def shownPair (a b : Value) : Text := enclosed "(" ")" [a.shown, b.shown]

/-- A list of values as a listing shows it. -/
def shownList (vs : List Value) : Text := enclosed "[" "]" (vs.map shown)

/-! ## Values without a text -/

/-- The deepest nesting that is shown. The calls in progress take away from it; this is what the
outermost ones leave, by estimate. -/
def maxNesting : Nat := 980

mutual

/-- Why a value cannot be shown that may nest `room` levels deep: what is met first counts. -/
def obstacleWithin? (room : Nat) : Value → Option Obstacle
  | .int n => if Text.isUnwritten n then some .digits else none
  | .list items =>
    match room with
    | 0 => some .nesting
    | room + 1 => itemsObstacle? room items
  | .dict entries =>
    match room with
    | 0 => some .nesting
    | room + 1 => entriesObstacle? room entries
  | _ => none

def itemsObstacle? (room : Nat) : List Value → Option Obstacle
  | [] => none
  | v :: rest => (obstacleWithin? room v).or (itemsObstacle? room rest)

def entriesObstacle? (room : Nat) : List (Value × Value) → Option Obstacle
  | [] => none
  | e :: rest => (entryObstacle? room e).or (entriesObstacle? room rest)

def entryObstacle? (room : Nat) : Value × Value → Option Obstacle
  | (k, v) => (obstacleWithin? room k).or (obstacleWithin? room v)

end

/-- Why a value has no text. -/
def obstacle? (v : Value) : Option Obstacle := obstacleWithin? maxNesting v

end Value

end Tracing
