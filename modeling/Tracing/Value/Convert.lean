import Tracing.Failure

/-!
# Tracing.Value.Convert

Values read as lists and dictionaries, searched and compared.

* `elements` — a value as a list: the characters of a text, the keys of a dictionary.
* `entries`  — a value as a dictionary: a list of pairs is one.
* `attributeEntries`, `resourceAttributes` — a value as attributes: only a dictionary, or nothing.
* `index` — a value as an index into a list: a whole number, as which a boolean counts.
* `fieldName` — a value as the name of a field, which only a text is.
* `contains` — whether a value holds another one.
* `atMost`, `exceeds` — comparison of numbers.
-/

namespace Tracing

namespace Value

def elements (v : Value) : Except Failure (List Value) :=
  match v.elements? with
  | some vs => .ok vs
  | none => .error (.notIterable v.typeName)

/-- An element as a pair of a key and a value. -/
def pairAt (index : Nat) (v : Value) : Except Failure (Value × Value) :=
  match v.elements with
  | .error _ => .error (.noPair index)
  | .ok [k, w] => if k.key?.isSome then .ok (k, w) else .error (.unhashable k.typeName)
  | .ok vs => .error (.pairLength index vs.length)

/-- Bind the pairs of a list in turn, the first of them being element number `index`. -/
def bindPairs (entries : List (Value × Value)) (index : Nat) :
    List Value → Except Failure (List (Value × Value))
  | [] => .ok entries
  | v :: rest =>
    match pairAt index v with
    | .error e => .error e
    | .ok (k, w) => bindPairs (bind k w entries) (index + 1) rest

/-- The entries bound in `old`, then those of a value read as a dictionary. -/
def update (old : List (Value × Value)) (v : Value) : Except Failure (List (Value × Value)) :=
  match v with
  | .dict entries => .ok (entries.foldl (fun acc e => bind e.1 e.2 acc) old)
  | v =>
    match v.elements with
    | .error e => .error e
    | .ok vs => bindPairs old 0 vs

/-- A dictionary has the same entries as a copy of it. -/
def entries (v : Value) : Except Failure (List (Value × Value)) :=
  match v with
  | .dict entries => .ok entries
  | v => update [] v

/-- The attributes that a value gives. One that counts as unset gives none. -/
def attributeEntries (v : Value) : Except Failure (List (Value × Value)) :=
  match v with
  | .dict entries => .ok entries
  | v => if v.isTruthy then .error (.noAttribute v.typeName "items") else .ok []

/-- The attributes that a value gives to a resource. They are copied first, a list as a tuple, and
what has no length cannot be copied. -/
def resourceAttributes (v : Value) : Except Failure (List (Value × Value)) :=
  match v with
  | .bool _ | .int _ | .float _ => if v.isTruthy then .error (.noLength v.typeName) else .ok []
  | .list (_ :: _) => .error (.noAttribute "tuple" "items")
  | v => v.attributeEntries

def index (v : Value) : Except Failure Int :=
  match v with
  | .bool b => .ok (if b then 1 else 0)
  | .int n => .ok n
  | v => .error (.noIndex v.typeName)

/-- A value as the name of a field. -/
def fieldName (v : Value) : Except Failure Text :=
  match v with
  | .str name => .ok name
  | v => .error (.noFieldName v.typeName)

/-- Membership: in a list by equality, in a dictionary by key, in a text as a part of it. -/
def contains (container item : Value) : Except Failure Bool :=
  match container with
  | .list items => .ok (items.any (same item))
  | .dict entries =>
    match item.key? with
    | some key => .ok (lookup key entries).isSome
    | none => .error (.unhashable item.typeName)
  | .str s =>
    match item with
    | .str part => .ok (s.contains part)
    | item => .error (.notSearchable item.typeName)
  | v => .error (.notContainer v.typeName)

/-- `a ≤ b` on numbers; false beside a NaN. -/
def atMost (a b : Value) : Except Failure Bool :=
  match order? a b with
  | some order => .ok (order == some .lt || order == some .eq)
  | none => .error (.unordered "<=" a.typeName b.typeName)

/-- `a > b` on numbers; false beside a NaN. -/
def exceeds (a b : Value) : Except Failure Bool :=
  match order? a b with
  | some order => .ok (order == some .gt)
  | none => .error (.unordered ">" a.typeName b.typeName)

end Value

end Tracing
