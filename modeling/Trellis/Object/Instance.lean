import Trellis.Object.Class
import Trellis.Object.Logger
/-!
# Instances

An instance is an object with the class it was made from. Objects have an identity of their own: two
instances are the same one exactly when their objects are. What a constructor was given is kept with
the instance.
-/

namespace Trellis

/-- The identity of an object. -/
inductive ObjectId where
  /-- The nth logger bound by a module. -/
  | logger (n : Nat)
  /-- The nth object a constructor made. -/
  | constructed (n : Nat)
  deriving DecidableEq, Repr

/-- The framework's part of a service or a controller. -/
structure Base where
  className : String
  logger : Logger
  config : AppConfig
  deriving Repr

/-- What an object is to the framework. -/
inductive Role where
  | plain
  | service (base : Base)
  | controller (base : Base)
  | logger (logger : Logger)
  deriving Repr

/-- An object and its class, with what its constructor received. -/
structure Instance where
  cls : Class
  object : ObjectId
  role : Role
  /-- The injected dependencies, in order. -/
  received : List Instance
  logger : Option Logger
  config : Option AppConfig

namespace Instance

def isOf (cls : Class) (subject : Instance) : Bool :=
  subject.cls = cls

/-- Whether both are the same object. -/
def isSame (subject other : Instance) : Bool :=
  subject.object = other.object

/-- The base of a service or a controller. -/
def base? (subject : Instance) : Option Base :=
  match subject.role with
  | .service base | .controller base => some base
  | _ => none

/-- What an instance is called: its class and the number of its object, or the application of a
logger. -/
def label (subject : Instance) : String :=
  let mark :=
    match subject.role, subject.object with
    | .logger logger, _ => logger.app
    | _, .constructed n => toString n
    | _, .logger n => toString n
  subject.cls.name ++ "@" ++ mark

/-- The first received dependency of a class. -/
def dependency? (cls : Class) (subject : Instance) : Option Instance :=
  subject.received.find? (isOf cls)

end Instance

end Trellis
