import Tracing.Options.Record
import Tracing.Text.Blank
import Tracing.Text.Bytes

/-!
# Tracing.Options.Environment

Environment variables that overlay a dictionary of options.

* `Environment.set`    — a variable set. It is kept as bytes, so some texts cannot be set.
* `Environment.get?`   — a variable that is set and not empty.
* `nameList`           — the names of a comma-separated list, blank fields left out.
* `Environment.apply`  — the dictionary with every override that applies.
-/

namespace Tracing

/-- Variables and their values. -/
abbrev Environment := List (Text × Text)

namespace Environment

/-- A text as it is after it was kept as bytes. -/
def kept (t : Text) : Except Failure Text :=
  match t.toBytes? with
  | some bytes => .ok (Text.ofBytes bytes)
  | none => .error (.foreign (.unwritable t t.unwritable?))

/-- Whether a text holds a character. -/
def holds (c : Char) (t : Text) : Bool := t.points.contains c

/-- Set a variable, in place of one that has its name. Only a text can be set. -/
def set (env : Environment) (name : Text) (value : Value) : Except Failure Environment := do
  let name ← kept name
  let value ←
    match value with
    | .str t => kept t
    | v => throw (.foreign (.typeError s!"str expected, not {v.typeName}"))
  if holds '\x00' name || holds '\x00' value then
    throw (.foreign (.valueError "embedded null byte"))
  if holds '=' name then throw (.foreign (.valueError "illegal environment variable name"))
  if name.isEmpty then throw (.foreign ⟨"OSError", [.int 22, .str "Invalid argument"]⟩)
  return (name, value) :: env

/-- The environment of variables set in turn. -/
def ofVariables (entries : List (Text × Value)) : Except Failure Environment :=
  entries.foldlM (fun env v => set env v.1 v.2) []

/-- An empty variable counts as unset. -/
def get? (env : Environment) (name : String) : Option Text :=
  (env.lookup (name : Text)).filter (!·.isEmpty)

end Environment

/-- The names of a comma-separated list: its fields without white space around them, less the
fields that are blank. -/
def nameList (cs : List CodePoint) : List (List CodePoint) :=
  ((Text.fields ',' cs).map Text.strip).filter (!·.isEmpty)

def namesValue (t : Text) : Value := .list ((nameList t.points).map fun name => .str ⟨name⟩)

namespace Environment

/-- Bind a text key, if there is a value for it. -/
def overlay (key : String) (v : Option Value) (entries : List (Value × Value)) :
    List (Value × Value) :=
  match v with
  | some v => Value.bind (.str key) v entries
  | none => entries

/-- Whether the variable that turns telemetry off says so. -/
def isDisabled (env : Environment) : Bool :=
  (env.get? "OTEL_SDK_DISABLED").any (Text.isWord "true")

def apply (env : Environment) (entries : List (Value × Value)) : List (Value × Value) :=
  let text name := (env.get? name).map Value.str
  entries
    |> overlay "enabled" (if env.isDisabled then some (.bool false) else none)
    |> overlay "service_name" (text "OTEL_SERVICE_NAME")
    |> overlay "otlp_endpoint" (text "OTEL_EXPORTER_OTLP_ENDPOINT")
    |> overlay "provider" (text "TRACEKIT_PROVIDER")
    |> overlay "suppressed_instrumentations"
        ((env.get? "TRACEKIT_SUPPRESSED_INSTRUMENTATIONS").map namesValue)

end Environment

end Tracing
