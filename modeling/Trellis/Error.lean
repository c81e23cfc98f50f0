/-!
# Errors

Every operation that can fail does so with an `Error`: a cause told by `Error.message`, and below it
the errors that led to it, told outermost first by `Error.sources`.
-/

namespace Trellis

/-- Why an operation failed. Three groups: wiring (a missing decorator or logger, a cycle, something
unresolved or not found, a failed constructor), running (state, type, effect), and the surroundings
(configuration, input and output, JSON). A `Source` is what an error of the last two groups or of a
constructor was caused by. -/
inductive Error where
  | missingDecorator (className decorator : String)
  | missingLogger (className : String)
  | cyclicImport (path : List String)
  | unresolvedDependencies (className : String) (params : List String)
  | serviceNotFound (identifier : String)
  | construction (className message : String) (source : Option Error)
  | invalidState (expected actual : String)
  | typeMismatch (text : String)
  | effect (text : String) (source : Option Error)
  | configuration (text : String) (source : Option Error)
  | io (text : String) (source : Option Error)
  | json (fault : String)
  | internal (text : String)
  /-- An error from outside the library, known by its text alone. -/
  | foreign (text : String)
  deriving Repr

namespace Error

/-- What a reader is told. -/
def message : Error → String
  | .missingDecorator className decorator =>
    "Class " ++ className ++ " is missing @" ++ decorator ++ " metadata"
  | .missingLogger className => "Logger is required to construct " ++ className
  | .cyclicImport path => "Cyclic module import: " ++ " -> ".intercalate path
  | .unresolvedDependencies className params =>
    "Unresolved dependencies for " ++ className ++ ": " ++ ", ".intercalate params
  | .serviceNotFound identifier => "Service not found: " ++ identifier
  | .construction className text _ => "Failed to construct " ++ className ++ ": " ++ text
  | .invalidState expected actual =>
    "Invalid state: expected " ++ expected ++ ", found " ++ actual
  | .typeMismatch text => "Type mismatch: " ++ text
  | .effect text _ => "Effect failed: " ++ text
  | .configuration text _ => "Configuration error: " ++ text
  | .io text _ => "I/O error: " ++ text
  | .json fault => "JSON parsing error: " ++ fault
  | .internal text => "Internal error: " ++ text
  | .foreign text => text

/-- The name of the kind of error; an error from outside has none of its own. -/
def kind : Error → String
  | .missingDecorator .. => "MissingDecorator"
  | .missingLogger _ => "MissingLogger"
  | .cyclicImport _ => "CyclicImport"
  | .unresolvedDependencies .. => "UnresolvedDependencies"
  | .serviceNotFound _ => "ServiceNotFound"
  | .construction .. => "Construction"
  | .invalidState .. => "InvalidState"
  | .typeMismatch _ => "TypeMismatch"
  | .effect .. => "Effect"
  | .configuration .. => "Configuration"
  | .io .. => "Io"
  | .json _ => "Json"
  | .internal _ => "Internal"
  | .foreign _ => "Foreign"

/-- The error directly below. The fault of a JSON text is its own source. -/
def source? : Error → Option Error
  | .construction _ _ source | .effect _ source | .configuration _ source | .io _ source => source
  | .json fault => some (.foreign fault)
  | _ => none

/-- The messages of the errors below, outermost first. -/
def sources : Error → List String
  | .construction _ _ (some source) | .effect _ (some source) | .configuration _ (some source)
  | .io _ (some source) => source.message :: source.sources
  | .json fault => [fault]
  | _ => []

/-- The error with `context` in front of its text, as an internal error. -/
def inContext (context : String) (cause : Error) : Error :=
  .internal (context ++ ": " ++ cause.message)

/-- The error with `context` in front of its text, as an error of input and output. -/
def inIoContext (context : String) (cause : Error) : Error :=
  .io (context ++ ": " ++ cause.message) (some cause)

/-- The error with `context` in front of its text, as an error of configuration. -/
def inConfigContext (context : String) (cause : Error) : Error :=
  .configuration (context ++ ": " ++ cause.message) (some cause)

/-- A failure of input or output as an error of its own. -/
def ofIo (text : String) : Error :=
  .io text (some (.foreign text))

/-- Whether the error already tells what could not be constructed. -/
def isOfConstruction : Error → Bool
  | .construction .. | .missingLogger _ => true
  | _ => false

end Error

end Trellis
