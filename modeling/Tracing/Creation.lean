import Tracing.Recorder.Make

/-!
# Tracing.Creation

The creation of the provider that options select from the catalog.

* `ProviderClass.instantiate` — a provider of a class, with options.
* `Provider.create`           — the provider that options name; disabled ones select the idle
  provider of the library, whatever they name, and the catalog is not looked at.
-/

namespace Tracing

namespace ProviderClass

open Act

def instantiate (o : Options) (c : ProviderClass) : Act Provider :=
  match c.instances with
  | .recorder => .recorder <$> Recorder.make { className := c.className, options := o }
  | .noop => idle (.noop c.className)
  | .minimal => idle (.minimalWithOptions c.className)
  | .interface => throw (.noArguments c.className)
  | .exploding => throw (.foreign ⟨"RuntimeError", [.str "cannot construct"]⟩)
where
  idle (kind : IdleKind) : Act Provider := .idle <$> addIdle { kind, options := some o }

end ProviderClass

namespace Provider

open Act

def catalogLogger : String := "tracekit.registry"

def create (o : Options) : Act Provider := do
  if !o.enabled.isTruthy then
    say .info catalogLogger "Tracing disabled, using no-op tracer provider"
    return ← ProviderClass.noop.instantiate o
  let c ← Act.catalog (Catalog.select o.provider)
  let p ← c.instantiate o
  say .info catalogLogger ("Created tracer provider: " ++ o.provider.wording)
  return p

end Provider

end Tracing
