import Tracing.Value.Display

/-!
# Tracing.ForeignError

Errors that outside code raises, by the name of their class and their arguments.

* `kind`           — the class under which an error is reported.
* `refusal?`       — the error of making it, if its class does not take its arguments.
* `raised`         — what is raised in the end.
* `message`        — its text.
* `unshown?`       — what goes wrong when the text is made; `unwritten?`, if it is part of a message.
* `isInterruption` — whether it ends the work in progress instead of being reported by it.
-/

namespace Tracing

structure ForeignError where
  className : String
  args : List Value
  deriving Inhabited

namespace ForeignError

/-- The classes that no handler of ordinary errors catches. -/
def interruptions : List String :=
  ["KeyboardInterrupt", "SystemExit", "GeneratorExit", "BaseException"]

def isInterruption (e : ForeignError) : Bool := interruptions.contains e.className

/-- An error as it leaves the start of a span. The signal that ends an iteration cannot leave it:
another error stands for it. -/
def leavingStart (e : ForeignError) : ForeignError :=
  if e.className = "StopIteration" then ⟨"RuntimeError", [.str "generator raised StopIteration"]⟩
  else e

/-! ## System errors -/

/-- The class of an operating system error by its number, for the general class. -/
def systemErrorClass : Int → String
  | 1 | 13 => "PermissionError"
  | 2 => "FileNotFoundError"
  | 3 => "ProcessLookupError"
  | 4 => "InterruptedError"
  | 10 => "ChildProcessError"
  | 11 | 114 | 115 => "BlockingIOError"
  | 17 => "FileExistsError"
  | 20 => "NotADirectoryError"
  | 21 => "IsADirectoryError"
  | 32 | 108 => "BrokenPipeError"
  | 103 => "ConnectionAbortedError"
  | 104 => "ConnectionResetError"
  | 110 => "TimeoutError"
  | 111 => "ConnectionRefusedError"
  | _ => "OSError"

def systemErrors : List String :=
  ["OSError", "IOError", "EnvironmentError", "BlockingIOError", "ChildProcessError",
    "ConnectionError", "BrokenPipeError", "ConnectionAbortedError", "ConnectionRefusedError",
    "ConnectionResetError", "FileExistsError", "FileNotFoundError", "InterruptedError",
    "IsADirectoryError", "NotADirectoryError", "PermissionError", "ProcessLookupError",
    "TimeoutError"]

/-- The general class of system errors and its two older names. -/
def generalSystemErrors : List String := ["OSError", "IOError", "EnvironmentError"]

/-- The number, the reason and the files of a system error, which it may name two of around a
spare argument. With fewer arguments or more it is as any other error. -/
def details? (e : ForeignError) : Option (Value × Value × List Value) :=
  match e.args with
  | number :: reason :: files =>
    if systemErrors.contains e.className && files.length ≤ 3 then some (number, reason, files)
    else none
  | _ => none

/-- A system error with a number and a reason is of the class of its number, if the general one is
raised. -/
def kind (e : ForeignError) : String :=
  if generalSystemErrors.contains e.className then
    match e.details? with
    | some (.int n, _) => systemErrorClass n
    | some (.bool true, _) => systemErrorClass 1
    | _ => "OSError"
  else e.className

/-- A blocked write gives the number of characters written in place of a file. -/
def written? (e : ForeignError) : Option Value :=
  match e.details? with
  | some (_, _, v :: _) => if e.kind = "BlockingIOError" && v.number?.isSome then some v else none
  | _ => none

/-- The files that the text of a system error names. Beside a number of characters it names none. -/
def namedFiles (e : ForeignError) (files : List Value) : List Value :=
  if e.written?.isSome then []
  else
    match files with
    | [] | .null :: _ => []
    | [file] | [file, _] | file :: _ :: .null :: _ => [file]
    | file :: _ :: second :: _ => [file, second]

/-- The number and the reason, then the files. -/
def systemMessage (e : ForeignError) (number reason : Value) (files : List Value) : Text :=
  let start := "[Errno " ++ number.text ++ "] " ++ reason.text
  match e.namedFiles files with
  | [] => start
  | names => start ++ ": " ++ Text.intercalate " -> " (names.map Value.shown)

/-! ## Errors in the text of a program -/

def sourceErrors : List String := ["SyntaxError", "IndentationError", "TabError"]

/-- A file without its directories. -/
def baseName (path : Text) : Text :=
  ⟨(path.points.reverse.takeWhile fun c : CodePoint => c ≠ '/').reverse⟩

/-- Whether an integer is as large as a machine word at most. -/
def isMachineInteger (n : Int) : Bool := n.bmod (Nat.pow 2 64) == n

/-- A line number that is too large is shown as minus one. -/
def lineShown (n : Int) : Text :=
  "line " ++ Text.ofInt (if isMachineInteger n then n else -1)

/-- The file and the line that the details of an error name. -/
def sourcePlace (details : List Value) : List Text :=
  let file := match details with | .str path :: _ => [baseName path] | _ => []
  let line := match details with | _ :: .int n :: _ => [lineShown n] | _ => []
  file ++ line

/-- The first argument, and behind it the place if a second one gives details. -/
def sourceMessage (args : List Value) : Text :=
  let start := (args.head?.getD .null).text
  match args with
  | [_, details] =>
    match sourcePlace ((details.elements?).getD []) with
    | [] => start
    | place => start ++ " (" ++ Text.intercalate ", " place ++ ")"
  | _ => start

/-! ## Errors of text coding -/

def integerOf (v : Value) : Int :=
  match v.number? with
  | some (.whole n) => n
  | _ => 0

/-- The position before a position. Before the least of all comes the greatest. -/
def positionBefore (n : Int) : Int := (n - 1).bmod (Nat.pow 2 64)

/-- What could not be done with a part of a text, and why. A single character is shown by its code
point, more than one by their positions. -/
def codingMessage (failed object : Text) (start stop : Int) (reason : Text) : Text :=
  let single := if start + 1 = stop ∧ 0 ≤ start then object.points[start.toNat]? else none
  match single with
  | some c =>
    failed ++ " character '" ++ Text.ofChars (Text.escapedCode c) ++ "' in position " ++
      Text.ofInt start ++ ": " ++ reason
  | none =>
    failed ++ " characters in position " ++ Text.ofInt start ++ "-" ++
      Text.ofInt (positionBefore stop) ++ ": " ++ reason

/-- Whether one character is to be shown that stands in front of a text. -/
def isBefore (start stop : Value) : Bool :=
  integerOf start < 0 && integerOf start + 1 == integerOf stop

/-- Whether the text of an error of text coding cannot be made. -/
def isFaulty (e : ForeignError) : Bool :=
  match e.className, e.args with
  | "UnicodeEncodeError", [_, _, start, stop, _] => isBefore start stop
  | "UnicodeTranslateError", [_, start, stop, _] => isBefore start stop
  | _, _ => false

/-! ## Texts -/

/-- Several arguments are a tuple and one stands for itself, except that a missing key is quoted. -/
def plainMessage (className : String) (args : List Value) : Text :=
  match args with
  | [] => ""
  | [v] => if className = "KeyError" then v.shown else v.text
  | args => Value.enclosed "(" ")" (args.map Value.shown)

def message (e : ForeignError) : Text :=
  if sourceErrors.contains e.className then sourceMessage e.args
  else
    match e.className, e.args with
    | "UnicodeEncodeError", [.str encoding, .str object, start, stop, .str reason] =>
      codingMessage ("'" ++ encoding ++ "' codec can't encode") object (integerOf start)
        (integerOf stop) reason
    | "UnicodeTranslateError", [.str object, start, stop, .str reason] =>
      codingMessage "can't translate" object (integerOf start) (integerOf stop) reason
    | className, args =>
      match e.details? with
      | some (number, reason, files) => e.systemMessage number reason files
      | none => plainMessage className args

/-! ## Errors without a text -/

def typeError (message : Text) : ForeignError := ⟨"TypeError", [.str message]⟩

def valueError (message : Text) : ForeignError := ⟨"ValueError", [.str message]⟩

def overflowError (message : Text) : ForeignError := ⟨"OverflowError", [.str message]⟩

/-- Why the arguments have no text of which the text of an error is made. -/
def obstacle? (e : ForeignError) : Option Obstacle :=
  if sourceErrors.contains e.className then (e.args.head?.getD .null).obstacle?
  else
    match e.className, e.args with
    | "UnicodeEncodeError", [.str _, .str _, _, _, .str _] => none
    | "UnicodeTranslateError", [.str _, _, _, .str _] => none
    | _, args =>
      match e.details? with
      | some (number, reason, files) =>
        (number :: reason :: e.namedFiles files).findSome? Value.obstacle?
      | none => args.findSome? Value.obstacle?

/-- What goes wrong when a value is written that has no text. -/
def ofObstacle : Obstacle → ForeignError
  | .digits => valueError ("Exceeds the limit (4300 digits) for integer string conversion; " ++
      "use sys.set_int_max_str_digits() to increase the limit" : String)
  | .nesting =>
    ⟨"RecursionError",
      [.str "maximum recursion depth exceeded while getting the repr of an object"]⟩

/-- What goes wrong when `maker` makes the text of an error. -/
def faultOf? (maker : String) (e : ForeignError) : Option ForeignError :=
  if e.isFaulty then
    some ⟨"SystemError", [.str s!"{maker} returned a result with an exception set"]⟩
  else e.obstacle?.map ofObstacle

/-- What goes wrong when an error is shown. -/
def unshown? (e : ForeignError) : Option ForeignError := e.faultOf? "<class 'str'>"

/-- What goes wrong when the text of an error is made part of a message. Its maker is named with
its place in memory, which is left out here. -/
def unwritten? (e : ForeignError) : Option ForeignError :=
  e.faultOf? s!"<built-in method __format__ of {e.className} object>"

/-! ## Arguments that a class does not take -/

/-- The text for an integer beyond a machine word, where a length or a position is expected. -/
def beyondLengths : String := "Python int too large to convert to C ssize_t"

/-- A text cannot be written as bytes, from the first bad code point on. -/
def unwritable (t : Text) (run : Option (Nat × Nat)) : ForeignError :=
  let (start, stop) := run.getD (0, 0)
  ⟨"UnicodeEncodeError",
    [.str "utf-8", .str t, .int start, .int stop, .str "surrogates not allowed"]⟩

def noInteger (v : Value) : ForeignError :=
  typeError s!"'{v.typeName}' object cannot be interpreted as an integer"

/-- What a parameter takes. -/
inductive Parameter where
  | text
  | position
  | anything

/-- A value that is no text, as its parameter names it. -/
def noText (number : Nat) (v : Value) : ForeignError :=
  let found := match v with | .null => "None" | v => v.typeName
  typeError s!"argument {number} must be str, not {found}"

def Parameter.refusal? (number : Nat) : Parameter → Value → Option ForeignError
  | .anything, _ | .text, .str _ | .position, .bool _ => none
  | .text, v => some (noText number v)
  | .position, .int n => if isMachineInteger n then none else some (overflowError beyondLengths)
  | .position, v => some (noInteger v)

/-- What the first parameter refuses that does not take its argument. -/
def refusalFrom? (number : Nat) : List Parameter → List Value → Option ForeignError
  | p :: ps, v :: vs => (p.refusal? number v).or (refusalFrom? (number + 1) ps vs)
  | _, _ => none

/-- What a list of parameters refuses: another number of arguments, or one of them. -/
def argumentsRefusal? (parameters : List Parameter) (args : List Value) : Option ForeignError :=
  if args.length = parameters.length then refusalFrom? 1 parameters args
  else
    some (typeError s!"function takes exactly {parameters.length} arguments ({args.length} given)")

/-- The details of an error in the text of a program are four to six, but not five. -/
def sourceRefusal? (details : Value) : Option ForeignError :=
  match details.elements? with
  | none => some (typeError s!"'{details.typeName}' object is not iterable")
  | some vs =>
    if vs.length < 4 then
      some (typeError s!"function takes at least 4 arguments ({vs.length} given)")
    else if 6 < vs.length then
      some (typeError s!"function takes at most 6 arguments ({vs.length} given)")
    else if vs.length = 5 then
      some (typeError "end_offset must be provided when end_lineno is provided")
    else none

def groups : List String := ["ExceptionGroup", "BaseExceptionGroup"]

/-- What a group refuses: its members have to be errors, and no value is one. -/
def membersRefusal : Value → ForeignError
  | .list items => sequenceRefusal items.isEmpty
  | .str s => sequenceRefusal s.isEmpty
  | _ => typeError "second argument (exceptions) must be a sequence"
where
  sequenceRefusal (isEmpty : Bool) : ForeignError :=
    if isEmpty then valueError "second argument (exceptions) must be a non-empty sequence"
    else valueError "Item 0 of second argument (exceptions) is not an exception"

def groupRefusal (args : List Value) : ForeignError :=
  let owner := "BaseExceptionGroup.__new__()"
  match args with
  | [.str _, members] => membersRefusal members
  | [v, _] => typeError (owner ++ " " ++ (noText 1 v).message)
  | _ => typeError s!"{owner} takes exactly 2 arguments ({args.length} given)"

/-- The number of characters written is an integer of a machine word. -/
def writtenRefusal? : Value → Option ForeignError
  | .float x => some (noInteger (.float x))
  | .int n =>
    if isMachineInteger n then none
    else some (valueError "cannot fit 'int' into an index-sized integer")
  | _ => none

def refusal? (e : ForeignError) : Option ForeignError :=
  if sourceErrors.contains e.className then
    match e.args with
    | [_, details] => sourceRefusal? details
    | _ => none
  else if groups.contains e.className then some (groupRefusal e.args)
  else
    match e.className with
    | "UnicodeEncodeError" =>
      argumentsRefusal? [.text, .text, .position, .position, .text] e.args
    | "UnicodeTranslateError" => argumentsRefusal? [.text, .position, .position, .text] e.args
    | "UnicodeDecodeError" =>
      (argumentsRefusal? [.text, .anything, .position, .position, .text] e.args).or
        (e.args[1]?.map fun v =>
          typeError s!"a bytes-like object is required, not '{v.typeName}'")
    | _ => e.written?.bind writtenRefusal?

def raised (e : ForeignError) : ForeignError := e.refusal?.getD e

end ForeignError

end Tracing
