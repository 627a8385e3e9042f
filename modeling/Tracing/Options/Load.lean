import Tracing.Files
import Tracing.Json
import Tracing.Log
import Tracing.Options.Environment

/-!
# Tracing.Options.Load

Options from a file and the environment.

* `Surroundings` — the files, the current directory and the environment that a load sees.
* `discover`     — the options file to use when none is named.
* `sectionOf`    — the entries that a document holds for the library.
* `load`         — the options, checked. A file that is missing or cannot be used counts as empty.
-/

namespace Tracing

structure Surroundings where
  files : FileTree := {}
  current : Place := .directory treeRoot
  environment : Environment := []
  deriving Inhabited

/-- Work that writes log records and may fail. -/
abbrev Loading := EStateM Failure (List LogRecord)

namespace Loading

def say (level : Level) (message : Text) : Loading Unit :=
  modify (· ++ [⟨level, "tracekit.settings", message⟩])

end Loading

open Loading

namespace Surroundings

/-- What a path leads to, if anything. A name that is too long is a failure. -/
def place? (s : Surroundings) (p : FilePath) : Except Failure (Option Place) :=
  match s.files.locate s.current p with
  | .ok place => .ok (some place)
  | .error .missing | .error .belowFile => .ok none
  | .error .nameTooLong => .error (.file .nameTooLong p.render)

def configVariable : String := "TRACEKIT_CONFIG"

/-- Where an options file is looked for, in order. -/
def searchPaths : List FilePath :=
  [.ofText "configs/tracing.json", .ofText "../configs/tracing.json"]

/-- The first of the paths that exists, from the root on. -/
def search (s : Surroundings) : List FilePath → Loading (Option FilePath)
  | [] => return none
  | p :: rest => do
    match ← ofExcept (s.place? p) with
    | some place =>
      let found := FileTree.resolved place
      say .debug ("Found config at: " ++ found.render)
      return some found
    | none => s.search rest

/-- The options file to use: the one that the environment names if it exists, else the first one
found. -/
def discover (s : Surroundings) : Loading (Option FilePath) := do
  match s.environment.get? configVariable with
  | none => s.search searchPaths
  | some named =>
    let p := FilePath.ofText named
    if (← ofExcept (s.place? p)).isSome then
      say .debug (s!"Found config via {configVariable}: " ++ p.render)
      return some p
    say .warning (s!"{configVariable} points to missing file: " ++ p.render)
    s.search searchPaths

/-- The document in a file, `none` if it cannot be read. Nesting that is too deep is a failure. -/
def document? (s : Surroundings) (place : Place) : Except Failure (Option Value) :=
  match (s.files.read? place).bind String.fromUTF8? with
  | none => .ok none
  | some text =>
    match Json.parse text.toList with
    | .ok v => .ok (some v)
    | .error .malformed => .ok none
    | .error (.tooDeep isObject) => .error (.tooDeep isObject)

/-- What a document holds for the library: the entries under the key `tracing` if it has one, else
all of its entries. -/
inductive Section where
  | entries (entries : List (Value × Value))
  /-- The document is no object. -/
  | noObject
  /-- What stands under the key is no object. -/
  | noSection

def sectionOf : Value → Section
  | .dict entries =>
    match Value.lookup (.text "tracing") entries with
    | none => .entries entries
    | some (.dict inner) => .entries inner
    | some _ => .noSection
  | _ => .noObject

/-- The entries for the library in the file at a path, none if they cannot be used. -/
def entriesAt (s : Surroundings) (p : FilePath) (place : Place) :
    Loading (List (Value × Value)) := do
  match ← ofExcept (s.document? place) with
  | none =>
    say .error ("Error loading tracing config from " ++ p.render)
    return []
  | some v =>
    match sectionOf v with
    | .entries entries =>
      say .debug ("Loaded tracing config from " ++ p.render)
      return entries
    | .noObject =>
      say .error ("Tracing config in " ++ p.render ++ " is not a JSON object")
      return []
    | .noSection =>
      say .error ("'tracing' section in " ++ p.render ++ " is not a JSON object")
      return []

/-- The entries for the library: of the file named, else of the file discovered. -/
def fileEntries (s : Surroundings) (named : Option FilePath) : Loading (List (Value × Value)) := do
  let found ←
    match named with
    | some p => pure (some p)
    | none => s.discover
  match found with
  | none => return []
  | some p =>
    match ← ofExcept (s.place? p) with
    | some place => s.entriesAt p place
    | none =>
      say .warning ("Tracing config not found: " ++ p.render ++ ", using defaults")
      return []

/-- The options of a file under the overrides of the environment, if they pass the check. -/
def load (s : Surroundings) (named : Option FilePath) : Loading Options := do
  let entries ← s.fileEntries named
  let o ← ofExcept (Options.ofEntries (s.environment.apply entries))
  ofExcept o.check
  return o

end Surroundings

end Tracing
