import Trellis.Layer.Basic
import Trellis.Metadata.Decoration
/-!
# Layers of services

A class that is decorated as a service provides one instance under its tag, built with the logger and
the configuration of the application.
-/

namespace Trellis

/-- What an application gives to the services and controllers in it. -/
structure App where
  logger : Logger
  config : AppConfig

/-- The arguments of a service. -/
def App.args (app : App) : Args :=
  { logger := some app.logger, config := some app.config }

/-- The provision of a class that has the service's metadata. A constructor of the implementation
comes before one of the handle. -/
def ServiceMetadata.provision (metadata : ServiceMetadata) (handle : Handle) (app : App) :
    Except Error Provision :=
  match metadata.implementation.serviceConstructor.or handle.serviceConstructor with
  | none =>
    .error (.construction metadata.implementation.name "service class has no constructor" none)
  | some construct =>
    .ok
      { tag := metadata.tag
        label := metadata.implementation.name
        build := fun _ => construct app.args }

/-- The report of a service's provision. -/
def Provision.createdEvent (provision : Provision) : Event :=
  { level := .debug
    message := "Created service layer"
    fields := [("class", .text provision.label), ("tag", .text provision.tag.identifier)] }

/-- The layer of a class that has to be a service. -/
def Registry.serviceLayer (registry : Registry) (handle : Handle) (app : App) : Build Layer := do
  match registry.serviceMetadata? handle.cls with
  | none => throw (.missingDecorator handle.name "Service")
  | some metadata =>
    let provision ← Build.ofExcept (metadata.provision handle app)
    emit provision.createdEvent
    return [provision]

end Trellis
