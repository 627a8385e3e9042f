import Tracing.Log
import Tracing.Provider

/-!
# Tracing.Catalog

The catalog of provider classes by name, which packages extend through entry points.

* `Catalog.discover`  — read the entry points, unless that was done. A name that two modules
  announce is a conflict; an entry point that cannot be loaded is left out.
* `Catalog.register`  — bind a name to a class; a name keeps its class.
* `Catalog.names`, `isAvailable`, `select` — what there is after a discovery.
-/

namespace Tracing

structure Catalog where
  /-- Names and their classes, in the order in which the names came. A name may be bound to
  nothing, if that is what an entry point gave. -/
  bindings : List (Value × Option ProviderClass) :=
    [(.str "sdk", some .recorder), (.str "noop", some .noop)]
  discovered : Bool := false
  /-- What the installed packages announce. -/
  announced : List EntryPoint :=
    [⟨.str "sdk", .str "tracekit.sdk:SdkTracerProvider", .gives (some .recorder)⟩,
      ⟨.str "noop", .str "tracekit.noop:NoOpTracerProvider", .gives (some .noop)⟩]
  /-- How often the announcements were read. -/
  reads : Nat := 0

namespace EntryPoint

/-- The module that an entry point names: the text before the first colon. -/
def moduleName (e : EntryPoint) : Except Failure Text :=
  match e.value with
  | .str s => .ok ⟨s.points.takeWhile fun c : CodePoint => c ≠ ':'⟩
  | v => .error (.noAttribute v.typeName "split")

end EntryPoint

/-- Work on a catalog, with the records that it writes. -/
abbrev Cataloguing := EStateM Failure (Catalog × List LogRecord)

namespace Catalog

/-- What a key is bound to. -/
def find? (key : Key) : List (Value × Option ProviderClass) → Option (Option ProviderClass)
  | [] => none
  | (name, c) :: rest => if name.key? = some key then some c else find? key rest

/-- Bind a name: an entry that has it keeps its place. -/
def bind (name : Value) (c : Option ProviderClass) :
    List (Value × Option ProviderClass) → List (Value × Option ProviderClass)
  | [] => [(name, c)]
  | (n, c') :: rest => if n.key? = name.key? then (n, c) :: rest else (n, c') :: bind name c rest

def allNames (c : Catalog) : List Value := c.bindings.map (·.1)

def say (level : Level) (message : Text) : Cataloguing Unit :=
  modify fun s => (s.1, s.2 ++ [⟨level, "tracekit.registry", message⟩])

def update (f : Catalog → Catalog) : Cataloguing Unit := modify fun s => (f s.1, s.2)

def bindings? : Cataloguing (List (Value × Option ProviderClass)) := do return (← get).1.bindings

/-- A name as a key; a list or a dictionary is no name. -/
def nameKey (name : Value) : Cataloguing Key :=
  match name.key? with
  | some key => pure key
  | none => throw (.unhashable name.typeName)

/-- Take up an entry point. A name that is bound must be announced by the module of its class. -/
def takeUp (e : EntryPoint) : Cataloguing Unit := do
  let key ← nameKey e.name
  match find? key (← bindings?) with
  | some none => throw (.noAttribute "NoneType" "__module__")
  | some (some c) =>
    let announced ← MonadExcept.ofExcept e.moduleName
    if c.moduleName ≠ announced then throw (.conflict e.name c.moduleName announced)
    say .debug <| "Provider '" ++ e.name.text ++
      "' already registered, skipping duplicate entry point"
  | none =>
    match e.load with
    | .gives c =>
      update fun s => { s with bindings := bind e.name c s.bindings }
      say .info ("Discovered tracer provider: " ++ e.name.text ++ " (" ++ e.value.text ++ ")")
    | .raises error =>
      if let some fault := error.escape? then throw fault
      say .error ("Failed to load tracer provider '" ++ e.name.text ++ "': " ++ error.message)

def takeUpAll : List EntryPoint → Cataloguing Unit
  | [] => pure ()
  | e :: rest => do
    takeUp e
    takeUpAll rest

/-- Read the entry points, unless a discovery has succeeded before. -/
def discover : Cataloguing Unit := do
  let (c, _) ← get
  if c.discovered then return
  say .info "Discovering tracer providers via entry points..."
  update fun c => { c with reads := c.reads + 1 }
  takeUpAll c.announced
  update fun c => { c with discovered := true }
  let (c, _) ← get
  say .info ("Tracer providers available: " ++ Value.shownList c.allNames)

/-- Bind a name to a class, unless another class has it. -/
def register (name : Value) (c : Option ProviderClass) : Cataloguing Unit := do
  let key ← nameKey name
  match find? key (← bindings?) with
  | some (some existing) =>
    if some existing ≠ c then throw (.alreadyRegistered name existing.shown)
  | _ => pure ()
  update fun s => { s with bindings := bind name c s.bindings }
  say .debug ("Registered tracer provider: " ++ name.text)

/-- All names, after a discovery. -/
def names : Cataloguing (List Value) := do
  discover
  return (← get).1.allNames

/-- Whether a name is bound, after a discovery. -/
def isAvailable (name : Value) : Cataloguing Bool := do
  discover
  let key ← nameKey name
  return (find? key (← bindings?)).isSome

/-- The class of a name, after a discovery. -/
def select (name : Value) : Cataloguing ProviderClass := do
  discover
  let key ← nameKey name
  match (find? key (← bindings?)).join with
  | some c => return c
  | none => throw (.notFound name (← get).1.allNames)

/-- Replace the announcements; `reset` makes the next discovery read them. -/
def announce (announced : List EntryPoint) (reset : Bool) (c : Catalog) : Catalog :=
  { c with announced, discovered := c.discovered && !reset }

end Catalog

end Tracing
