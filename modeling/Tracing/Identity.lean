import Tracing.Value.Convert

/-!
# Tracing.Identity

The identity of an instrumentation library: its name and its version. Nothing is checked here; an
empty name is legal and stands for the default one.

* `Identity`     — name and version, with `withName` and `withVersion`.
* `resolveName`  — the name under which a tracer is kept.
-/

namespace Tracing

structure Identity where
  name : Value := .str ""
  version : Value := .null
  deriving Inhabited

namespace Identity

def withName (i : Identity) (name : Value) : Identity := { i with name }

def withVersion (i : Identity) (version : Value) : Identity := { i with version }

def same (a b : Identity) : Bool := a.name.same b.name && a.version.same b.version

/-- The identity with the given fields, in order. -/
def assignAll : List (Text × Value) → Identity → Except Failure Identity
  | [], i => .ok i
  | (field, v) :: rest, i =>
    if field = "name" then assignAll rest (i.withName v)
    else if field = "version" then assignAll rest (i.withVersion v)
    else .error (.ofArgument "TracerConfig" field)

/-- What an assignment to a field ends in, whatever the field: an identity does not change. -/
def refusal (field : Value) : Failure :=
  match field.fieldName with
  | .ok name => .frozenField name
  | .error e => e

def shown (i : Identity) : Text :=
  "TracerConfig(name=" ++ i.name.shown ++ ", version=" ++ i.version.shown ++ ")"

end Identity

def defaultName : String := "tracekit"

/-- An empty name, or none, stands for the default one. -/
def resolveName (name : Value) : Value :=
  if name.isTruthy then name else .str defaultName

end Tracing
