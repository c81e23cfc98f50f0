import Trellis.Error
import Trellis.Object.Instance
import Trellis.Object.Tag
/-!
# Construction

Building objects allots identities, reports events and may fail. The state that this work shares is
the `Ledger`; work that cannot fail is `Logged`, work that can is `Build`. A failure keeps all that
was written in the ledger before.
-/

namespace Trellis

/-- The numbers allotted so far, and the events reported so far. -/
structure Ledger where
  objects : Nat := 0
  loggers : Nat := 0
  tags : Nat := 0
  scopes : Nat := 0
  events : Array Event := #[]
  deriving Repr

/-- Work that writes in the ledger. -/
abbrev Logged := StateM Ledger

/-- Work that writes in the ledger and may fail. -/
abbrev Build := ExceptT Error Logged

/-- Reports an event. -/
def emit (event : Event) : Logged Unit :=
  modify fun ledger => { ledger with events := ledger.events.push event }

/-- Reports events in order. -/
def emitAll (events : List Event) : Logged Unit :=
  modify fun ledger => { ledger with events := ledger.events ++ events }

/-- A tag that is no other tag. -/
def Tag.make (identifier : String) : Logged Tag :=
  modifyGet fun ledger => (.custom ledger.tags identifier, { ledger with tags := ledger.tags + 1 })

/-- What a constructor is given. -/
structure Args where
  dependencies : List Instance := []
  logger : Option Logger := none
  config : Option AppConfig := none

namespace Args

def withDependency (args : Args) (dependency : Instance) : Args :=
  { args with dependencies := args.dependencies ++ [dependency] }

/-- The first dependency of a class. -/
def dependency? (args : Args) (cls : Class) : Option Instance :=
  args.dependencies.find? (Instance.isOf cls)

/-- The first dependency of a class, which has to be there. -/
def require (args : Args) (cls : Class) : Except Error Instance :=
  match args.dependency? cls with
  | some dependency => .ok dependency
  | none => .error (.serviceNotFound cls.name)

/-- The base of a new object: a logger is required, a configuration is not. -/
def base (args : Args) (className : String) : Except Error Base :=
  match args.logger with
  | none => .error (.missingLogger className)
  | some logger =>
    .ok { className, logger := logger.child className, config := args.config.getD {} }

end Args

/-- A way to make an instance. -/
abbrev Constructor := Args → Build Instance

/-- A new object with what it was given. -/
def newInstance (cls : Class) (role : Role) (args : Args) : Logged Instance :=
  modifyGet fun ledger =>
    ( { cls
        object := .constructed (ledger.objects + 1)
        role
        received := args.dependencies
        logger := args.logger
        config := args.config },
      { ledger with objects := ledger.objects + 1 } )

/-- The instance under which an application provides its logger. -/
def newLoggerInstance (logger : Logger) : Logged Instance :=
  modifyGet fun ledger =>
    ( { cls := .logger
        object := .logger (ledger.loggers + 1)
        role := .logger logger
        received := []
        logger := none
        config := none },
      { ledger with loggers := ledger.loggers + 1 } )

/-- A result as work that writes nothing. -/
def Build.ofExcept {α : Type} (result : Except Error α) : Build α :=
  ExceptT.mk (pure result)

/-- The base of a new service. -/
def serviceBase (cls : Class) (args : Args) : Build Base := do
  let base ← Build.ofExcept (args.base cls.name)
  emit (base.logger.event .debug "Service initialized")
  return base

/-- The base of a new controller. -/
def controllerBase (cls : Class) (args : Args) : Build Base := do
  let base ← Build.ofExcept (args.base cls.name)
  emit (base.logger.event .debug "Controller initialized")
  return base

end Trellis
