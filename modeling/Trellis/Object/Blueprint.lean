import Trellis.Object.Handle
/-!
# Blueprints

A blueprint is a class described by data: its name, its signature, the types its constructor takes,
and what constructing it does. Handles are made from blueprints, so that whole applications can be
put together without writing constructors.
-/

namespace Trellis

/-- What a constructor makes of its arguments. -/
inductive Making where
  /-- An object that takes no part in the framework. -/
  | plain
  | service
  | controller
  /-- Nothing: it fails. -/
  | failing (error : Error)
  deriving Repr

/-- Which constructors a handle knows. -/
inductive HandleKind where
  | bare
  | provider
  | controller
  deriving DecidableEq, Repr

structure Blueprint where
  cls : Class
  signature : String := ""
  emitted : List Class := []
  making : Making := .service
  /-- The classes of which the constructor requires a dependency. -/
  required : List Class := []

namespace Making

/-- The role of the object made. -/
def role (making : Making) (cls : Class) (args : Args) : Build Role :=
  match making with
  | plain => pure .plain
  | service => Role.service <$> serviceBase cls args
  | controller => Role.controller <$> controllerBase cls args
  | failing error => throw error

end Making

namespace Blueprint

/-- The constructor: it takes its role, then checks what it requires. -/
def constructor (blueprint : Blueprint) : Constructor := fun args => do
  let role ← blueprint.making.role blueprint.cls args
  for cls in blueprint.required do
    let _ ← Build.ofExcept (args.require cls)
  newInstance blueprint.cls role args

def handle (blueprint : Blueprint) (kind : HandleKind) : Handle where
  cls := blueprint.cls
  signature := blueprint.signature
  emitted := blueprint.emitted
  serviceConstructor := if kind = .provider then some blueprint.constructor else none
  controllerConstructor := if kind = .controller then some blueprint.constructor else none

end Blueprint

end Trellis
