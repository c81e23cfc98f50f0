import Trellis.Composition.Application
/-!
# Shared state of applications

The applications of one process share a registry, a resolver and the host that reflects on
constructors. What one application learns about constructors, the next one knows.
-/

namespace Trellis

structure Shared where
  registry : Registry
  resolver : Resolver := {}
  /-- The host in use; the types known at compile time are taken unless another host came first. -/
  host : Option MetadataSource := none

namespace Shared

/-- A registry with some decorations. -/
def ofDecorations (name : String) (decorations : List (String × Decoration)) : Logged Shared := do
  return { registry := ← Registry.applyAll { name } decorations }

/-- The host that reflects on constructors. -/
def hostInUse (shared : Shared) : MetadataSource :=
  shared.host.getD .emitted

/-- Installs a host, which can be done once and before the first use; tells whether it was done. -/
def install (host : MetadataSource) (shared : Shared) : Bool × Shared :=
  match shared.host with
  | some _ => (false, shared)
  | none => (true, { shared with host := some host })

def reflection (shared : Shared) : Reflection :=
  { host := shared.hostInUse, store := shared.registry }

/-- What is shared after an application was started. -/
def after (shared : Shared) (started : Composition.Started) : Shared :=
  { registry := started.registry, resolver := started.resolver, host := some shared.hostInUse }

/-- Starts an application. -/
def start (cls : Class) (config : AppConfig) (shared : Shared) :
    Logged (Except Error Composition × Shared) := do
  let started ←
    Composition.start shared.hostInUse shared.registry shared.resolver cls config ""
  return (started.result, shared.after started)

/-- Composes a module under an application's logger and sets it up. -/
def bootstrap (cls : Class) (app : App) (shared : Shared) :
    Logged (Except Error Composition × Shared) := do
  let started ←
    Composition.bootstrap shared.hostInUse shared.registry shared.resolver cls app
      (fun _ => []) (fun _ => [])
  return (started.result, shared.after started)

/-- What is shared after some modules have been bootstrapped. -/
def warmedUp (modules : List Class) (shared : Shared) : Logged Shared :=
  modules.foldlM (fun shared cls => do return (← shared.bootstrap cls (.ofConfig {})).2) shared

end Shared

end Trellis
