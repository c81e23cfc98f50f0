import Trellis.Composition.Report
/-!
# Applications

Starting an application composes a module under a logger named like the configuration and sets it up.
-/

namespace Trellis

/-- What an application gives to what is in it: the logger goes by the application's name. -/
def App.ofConfig (config : AppConfig) : App :=
  { logger := { app := config.name }, config }

namespace Composition

/-- A set-up composition, or the error, and the registry and the resolver after it. -/
structure Started where
  result : Except Error Composition
  registry : Registry
  resolver : Resolver

/-- Sets up a composition with a registry as store. -/
def setupIn (host : MetadataSource) (registry : Registry) (resolver : Resolver)
    (composition : Composition) : Logged (Except Error Unit × Composition × Resolver) :=
  fun ledger =>
    let (result, assembly) :=
      (setup { host, store := registry }).run { composition, resolver, ledger }
    ((result, assembly.composition, assembly.resolver), assembly.ledger)

/-- Composes a module and sets it up. `onComposed` and `onReady` are reported in between and at the
end. -/
def bootstrap (host : MetadataSource) (registry : Registry) (resolver : Resolver) (cls : Class)
    (app : App) (onComposed onReady : Composition → List Event) : Logged Started := do
  let (composed, registry) ← compose registry cls app
  match composed with
  | .error error => return { result := .error error, registry, resolver }
  | .ok composition =>
    emitAll (onComposed composition)
    let (result, composition, resolver) ← setupIn host registry resolver composition
    match result with
    | .error error => return { result := .error error, registry, resolver }
    | .ok _ =>
      emitAll (onReady composition)
      return { result := .ok composition, registry, resolver }

/-- Starts an application: a bootstrap under the configuration's name, with reports of its course.
`origin` ends the first of them. -/
def start (host : MetadataSource) (registry : Registry) (resolver : Resolver) (cls : Class)
    (config : AppConfig) (origin : String) : Logged Started := do
  let told (message : String) : Event := { level := .info, message, fields := [] }
  emit (told ("Initializing application module " ++ cls.name ++ origin))
  bootstrap host registry resolver cls (.ofConfig config)
    (fun composition =>
      [told ("Composed " ++ toString composition.layer.length ++ " provider(s) for " ++ cls.name)])
    (fun composition =>
      [told ("Application ready: " ++ toString composition.services.length ++ " service(s), " ++
        toString composition.controllers.length ++ " controller(s)")])

end Composition

end Trellis
