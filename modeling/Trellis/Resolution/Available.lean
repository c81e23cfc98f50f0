import Trellis.Object.Construction
import Trellis.Table
/-!
# Available services

The classes a constructor may depend on, by name. Of two classes with one name the first stays. Each
set of available services has a scope, under which resolutions against it are remembered: that of a
module, or one of its own.
-/

namespace Trellis

/-- What a set of available services belongs to. -/
inductive Scope where
  | module (cls : Class)
  /-- The nth set made on its own. -/
  | anonymous (n : Nat)
  deriving DecidableEq, Repr

/-- Classes by name, within a scope. -/
structure Available where
  scope : Scope
  byName : Table String Class := []

namespace Available

/-- An empty set with a scope of its own. -/
def make : Logged Available :=
  modifyGet fun ledger =>
    ({ scope := .anonymous ledger.scopes }, { ledger with scopes := ledger.scopes + 1 })

/-- The class of a name. -/
def get? (available : Available) (name : String) : Option Class :=
  available.byName.get? name

/-- The set with a class, unless its name is taken. -/
def insert (available : Available) (cls : Class) : Available :=
  if available.byName.has cls.name then available
  else { available with byName := available.byName.put cls.name cls }

/-- The set with some classes, inserted in order. -/
def insertAll (available : Available) (classes : List Class) : Available :=
  classes.foldl insert available

/-- The report of a class whose name another class has. -/
def insertEvents (available : Available) (cls : Class) : List Event :=
  match available.get? cls.name with
  | none => []
  | some known =>
    if known = cls then []
    else
      [{ level := .warn
         message := "Two providers share a class name; keeping the first"
         fields := [("name", .text cls.name)] }]

/-- Inserts a class and reports a clash. -/
def add (available : Available) (cls : Class) : Logged Available := do
  emitAll (available.insertEvents cls)
  return available.insert cls

/-- Inserts classes in order and reports clashes. -/
def addAll (available : Available) (classes : List Class) : Logged Available :=
  classes.foldlM add available

theorem addAll_fst (available : Available) (classes : List Class) (ledger : Ledger) :
    (available.addAll classes ledger).1 = available.insertAll classes := by
  induction classes generalizing available ledger with
  | nil => rfl
  | cons cls rest ih => exact ih (available.insert cls) _

end Available

end Trellis
