/-!
# Classes

A class is what services, controllers and modules are instances of. Its identity and its name are
two things: different classes may share a name, and everything that compares classes compares
identities.
-/

namespace Trellis

/-- A class, known by its identity; the name is what people and signatures call it. -/
structure Class where
  id : String
  name : String
  deriving DecidableEq, Repr

/-- The class whose identity is its name. -/
def Class.named (name : String) : Class := ⟨name, name⟩

/-- The class of loggers, which every application provides under its name. -/
def Class.logger : Class := ⟨"Logger", "LoggerService"⟩

end Trellis
