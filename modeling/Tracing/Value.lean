import Tracing.Binary64
import Tracing.Text

/-!
# Tracing.Value

The values that options, identities and answers carry: what a JSON document can hold, with
dictionaries in insertion order whose keys may be any scalar.

* `typeName` — the name of a value's type, as messages give it.
* `isTruthy` — whether a value counts as set: everything but null, false, zero and the empty ones.
* `elements?` — what a value holds, read as a list.
* `Key`      — what a scalar is as a key: numbers by their value, so `true`, `1` and `1.0` are one.
* `same`     — equality of values: scalars by key, lists in order, dictionaries in any order.
* `order?`   — the order of two numbers.
-/

namespace Tracing

inductive Value where
  | null
  | bool (b : Bool)
  | int (n : Int)
  | float (x : Binary64)
  | str (s : Text)
  | list (items : List Value)
  | dict (entries : List (Value × Value))
  deriving Inhabited

/-- A number by its value: an integer if it is one, else the double. -/
inductive Number where
  | whole (n : Int)
  | broken (x : Binary64)
  deriving DecidableEq, Repr

/-- A scalar as a key. -/
inductive Key where
  | null
  | number (n : Number)
  | text (s : Text)
  deriving DecidableEq, Repr

namespace Value

def typeName : Value → String
  | .null => "NoneType"
  | .bool _ => "bool"
  | .int _ => "int"
  | .float _ => "float"
  | .str _ => "str"
  | .list _ => "list"
  | .dict _ => "dict"

def isTruthy : Value → Bool
  | .null => false
  | .bool b => b
  | .int n => n != 0
  | .float x => x.isNaN || !x.isZero
  | .str s => !s.isEmpty
  | .list items => !items.isEmpty
  | .dict entries => !entries.isEmpty

/-- A value as a list: the characters of a text, the keys of a dictionary. -/
def elements? : Value → Option (List Value)
  | .str s => some (s.points.map fun c => .str ⟨[c]⟩)
  | .list items => some items
  | .dict entries => some (entries.map (·.1))
  | _ => none

/-! ## Numbers and keys -/

/-- Booleans are the numbers zero and one. -/
def number? : Value → Option Number
  | .bool b => some (.whole (if b then 1 else 0))
  | .int n => some (.whole n)
  | .float x => some (x.toInt?.elim (.broken x) .whole)
  | _ => none

/-- A list or a dictionary is no key. -/
def key? (v : Value) : Option Key :=
  match v with
  | .null => some .null
  | .str s => some (.text s)
  | v => v.number?.map .number

/-- The value bound to a key, in a list of entries without repeated keys. -/
def lookup (key : Key) : List (Value × Value) → Option Value
  | [] => none
  | (k, v) :: rest => if k.key? = some key then some v else lookup key rest

/-- Bind a key: an entry that has it keeps its place and its spelling of the key. -/
def bind (k v : Value) : List (Value × Value) → List (Value × Value)
  | [] => [(k, v)]
  | (k', v') :: rest => if k'.key? = k.key? then (k', v) :: rest else (k', v') :: bind k v rest

mutual

/-- Equality of values. A NaN counts as equal to itself. -/
def same : Value → Value → Bool
  | .list xs, .list ys => sameItems xs ys
  | .dict xs, .dict ys => xs.length == ys.length && sameEntries xs ys
  | .list _, _ => false
  | .dict _, _ => false
  | x, y => x.key?.isSome && x.key? == y.key?

def sameItems : List Value → List Value → Bool
  | [], [] => true
  | x :: xs, y :: ys => same x y && sameItems xs ys
  | _, _ => false

/-- Every entry of the first is in the second. -/
def sameEntries : List (Value × Value) → List (Value × Value) → Bool
  | [], _ => true
  | e :: rest, ys => sameEntry e ys && sameEntries rest ys

def sameEntry : Value × Value → List (Value × Value) → Bool
  | (k, v), ys =>
    match k.key?.bind (lookup · ys) with
    | none => false
    | some w => same v w

end

/-- The order of two numbers: `none` if one is no number, `some none` beside a NaN. -/
def order? : Value → Value → Option (Option Ordering)
  | .bool a, y => intOrder (if a then 1 else 0) y
  | .int a, y => intOrder a y
  | .float a, .float b => some (a.compare b)
  | .float a, y => (intOrder? y).map a.compareInt
  | _, _ => none
where
  intOrder? : Value → Option Int
    | .bool b => some (if b then 1 else 0)
    | .int n => some n
    | _ => none
  intOrder (a : Int) : Value → Option (Option Ordering)
    | .float b => some ((b.compareInt a).map Ordering.swap)
    | y => (intOrder? y).map fun b => some (compare a b)

end Value

end Tracing
