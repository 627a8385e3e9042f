import Tracing.Value

/-!
# Tracing.Json

A reader of JSON documents. It also takes the three names of the special numbers, keeps integers
apart from numbers with a fraction or an exponent, and of two equal keys of an object keeps the
place of the first and the value of the last.

* `Json.parse`      — the value of a document.
* `Json.Unreadable` — why there is none: the text is malformed, or it nests too deep.
* `Json.maxDigits`  — an integer may have that many digits.
* `Json.maxDepth`   — brackets may be open that many at a time.
-/

namespace Tracing

namespace Json

inductive Unreadable where
  | malformed
  /-- One bracket too many is open; whether it is an object's is given. -/
  | tooDeep (isObject : Bool)
  deriving DecidableEq, Repr

/-- The outcome of reading a part: its value and the rest of the text. -/
abbrev Part (α : Type) := Except Unreadable (α × List Char)

def maxDigits : Nat := 4300

def maxDepth : Nat := 988

def isSpace (c : Char) : Bool := c == ' ' || c == '\t' || c == '\n' || c == '\r'

def skipSpace (cs : List Char) : List Char := cs.dropWhile isSpace

/-! ## Numbers -/

def digitsValue (cs : List Char) : Nat := cs.foldl (fun n c => 10 * n + (c.toNat - 48)) 0

/-- The digits of the integer part: a zero alone, or digits that do not begin with one. -/
def integerPart : List Char → Option (List Char × List Char)
  | '0' :: rest => some (['0'], rest)
  | cs =>
    match cs.takeWhile Char.isDigit with
    | [] => none
    | digits => some (digits, cs.dropWhile Char.isDigit)

/-- The digits behind a point, none if no digit follows it. -/
def fractionPart : List Char → List Char × List Char
  | '.' :: cs =>
    match cs.takeWhile Char.isDigit with
    | [] => ([], '.' :: cs)
    | digits => (digits, cs.dropWhile Char.isDigit)
  | cs => ([], cs)

def signed : List Char → Bool × List Char
  | '-' :: cs => (true, cs)
  | '+' :: cs => (false, cs)
  | cs => (false, cs)

/-- The exponent, if an `e` with digits behind it follows. -/
def exponentPart (cs : List Char) : Option Int × List Char :=
  match cs with
  | c :: behind =>
    if c = 'e' ∨ c = 'E' then
      let (negative, unsigned) := signed behind
      match unsigned.takeWhile Char.isDigit with
      | [] => (none, cs)
      | digits =>
        let n : Int := digitsValue digits
        (some (if negative then -n else n), unsigned.dropWhile Char.isDigit)
    else (none, cs)
  | [] => (none, cs)

/-- A number without its sign. -/
def unsignedNumber (negative : Bool) (cs : List Char) : Part Value :=
  match integerPart cs with
  | none => .error .malformed
  | some (whole, rest) =>
    let (fraction, rest) := fractionPart rest
    let (exponent, rest) := exponentPart rest
    if fraction.isEmpty && exponent.isNone then
      if maxDigits < whole.length then .error .malformed
      else
        let n : Int := digitsValue whole
        .ok (.int (if negative then -n else n), rest)
    else
      let digits := digitsValue (whole ++ fraction)
      .ok (.float (.ofDecimal negative digits (exponent.getD 0 - fraction.length)), rest)

/-! ## Texts -/

def hexDigit? (c : Char) : Option Nat :=
  if '0' ≤ c ∧ c ≤ '9' then some (c.toNat - 48)
  else if 'a' ≤ c ∧ c ≤ 'f' then some (c.toNat - 87)
  else if 'A' ≤ c ∧ c ≤ 'F' then some (c.toNat - 55)
  else none

/-- Four hexadecimal digits. -/
def codeUnit? : List Char → Option (Nat × List Char)
  | a :: b :: c :: d :: rest => do
    let a ← hexDigit? a
    let b ← hexDigit? b
    let c ← hexDigit? c
    let d ← hexDigit? d
    return (((a * 16 + b) * 16 + c) * 16 + d, rest)
  | _ => none

def isHighUnit (n : Nat) : Bool := 0xd800 ≤ n && n < 0xdc00

def isLowUnit (n : Nat) : Bool := 0xdc00 ≤ n && n < 0xe000

/-- The code point of an escape `\u`, its digits being next: two units of a pair make one. -/
def unicodeEscape (cs : List Char) : Option (CodePoint × List Char) := do
  let (high, rest) ← codeUnit? cs
  if isHighUnit high then
    match rest with
    | '\\' :: 'u' :: more =>
      match codeUnit? more with
      | some (low, behind) =>
        if isLowUnit low then
          return (.ofNat (0x10000 + (high - 0xd800) * 0x400 + (low - 0xdc00)), behind)
      | none => pure ()
    | _ => pure ()
  return (.ofNat high, rest)

/-- The character of an escape of one letter. -/
def letterEscape? : Char → Option Char
  | '"' => some '"'
  | '\\' => some '\\'
  | '/' => some '/'
  | 'b' => some '\x08'
  | 'f' => some '\x0c'
  | 'n' => some '\n'
  | 'r' => some '\r'
  | 't' => some '\t'
  | _ => none

/-- The rest of a text up to its closing quote. `done` holds what was read, last one first. -/
def textBody : Nat → List CodePoint → List Char → Part Text
  | 0, _, _ => .error .malformed
  | fuel + 1, done, cs =>
    match cs with
    | '"' :: rest => .ok (⟨done.reverse⟩, rest)
    | '\\' :: 'u' :: rest =>
      match unicodeEscape rest with
      | some (c, rest) => textBody fuel (c :: done) rest
      | none => .error .malformed
    | '\\' :: c :: rest =>
      match letterEscape? c with
      | some c => textBody fuel (c :: done) rest
      | none => .error .malformed
    | c :: rest => if c.toNat < 32 then .error .malformed else textBody fuel (c :: done) rest
    | [] => .error .malformed

/-! ## Values -/

/-- The entries of an object, given last to first. -/
def objectOf (members : List (Text × Value)) : Value :=
  .dict (members.reverse.foldl (fun entries m => Value.bind (.str m.1) m.2 entries) [])

/-- A given word, then the rest. -/
def word (w : String) (v : Value) (cs : List Char) : Part Value :=
  if w.toList.isPrefixOf cs then .ok (v, cs.drop w.length) else .error .malformed

mutual

/-- One value. `depth` brackets may still be opened. -/
def readValue : Nat → Nat → List Char → Part Value
  | 0, _, _ => .error .malformed
  | fuel + 1, depth, cs =>
    match cs with
    | '"' :: rest =>
      match textBody fuel [] rest with
      | .ok (s, rest) => .ok (.str s, rest)
      | .error e => .error e
    | '[' :: rest =>
      match depth with
      | 0 => .error (.tooDeep false)
      | depth + 1 =>
        match skipSpace rest with
        | ']' :: rest => .ok (.list [], rest)
        | rest => readItems fuel depth [] rest
    | '\x7b' :: rest =>
      match depth with
      | 0 => .error (.tooDeep true)
      | depth + 1 =>
        match skipSpace rest with
        | '\x7d' :: rest => .ok (.dict [], rest)
        | rest => readMembers fuel depth [] rest
    | 'n' :: _ => word "null" .null cs
    | 't' :: _ => word "true" (.bool true) cs
    | 'f' :: _ => word "false" (.bool false) cs
    | 'N' :: _ => word "NaN" (.float .nan) cs
    | 'I' :: _ => word "Infinity" (.float (.infinity false)) cs
    | '-' :: 'I' :: _ => word "-Infinity" (.float (.infinity true)) cs
    | '-' :: rest => unsignedNumber true rest
    | cs => unsignedNumber false cs

/-- The items of a list from the next one on; those read are in `done`, last first. -/
def readItems : Nat → Nat → List Value → List Char → Part Value
  | 0, _, _, _ => .error .malformed
  | fuel + 1, depth, done, cs =>
    match readValue fuel depth cs with
    | .error e => .error e
    | .ok (v, rest) =>
      match skipSpace rest with
      | ',' :: rest => readItems fuel depth (v :: done) (skipSpace rest)
      | ']' :: rest => .ok (.list (v :: done).reverse, rest)
      | _ => .error .malformed

/-- The members of an object from the next one on; those read are in `done`, last first. -/
def readMembers : Nat → Nat → List (Text × Value) → List Char → Part Value
  | 0, _, _, _ => .error .malformed
  | fuel + 1, depth, done, cs =>
    match cs with
    | '"' :: rest =>
      match textBody fuel [] rest with
      | .error e => .error e
      | .ok (key, rest) =>
        match skipSpace rest with
        | ':' :: rest =>
          match readValue fuel depth (skipSpace rest) with
          | .error e => .error e
          | .ok (v, rest) =>
            match skipSpace rest with
            | ',' :: rest => readMembers fuel depth ((key, v) :: done) (skipSpace rest)
            | '\x7d' :: rest => .ok (objectOf ((key, v) :: done), rest)
            | _ => .error .malformed
        | _ => .error .malformed
    | _ => .error .malformed

end

/-- The value of a document, with nothing but white space around it. Of two calls one inside the
other, one takes a character at least, so twice as many calls as characters and two are enough. -/
def parse (cs : List Char) : Except Unreadable Value :=
  match readValue (2 * cs.length + 2) maxDepth (skipSpace cs) with
  | .error e => .error e
  | .ok (v, rest) => if (skipSpace rest).isEmpty then .ok v else .error .malformed

end Json

end Tracing
