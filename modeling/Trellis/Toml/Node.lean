import Trellis.Table
import Trellis.Toml.Value
/-!
# Documents under construction

While a document is read, its tables are still open: a later line may add to them. A node remembers
how a table came about, because that decides who may add to it. Keys may be written once; a header may
open a table that so far was only passed through by other headers; a dotted key may add only to tables
that headers or dotted keys passed through, and ends in a table made by dotted keys.
-/

namespace Trellis.Toml

/-- How a table came about. -/
inductive TableKind where
  /-- By a header of its own, or as the document itself. -/
  | explicit
  /-- On the way to a table further down. -/
  | implicit
  /-- On the way of a dotted key. -/
  | dotted
  deriving DecidableEq, Repr

/-- An entry of a document that is being read. -/
inductive Node where
  /-- A value, which is complete; tables and arrays written as values are. -/
  | value (v : Value)
  | table (kind : TableKind) (entries : List (String × Node))
  /-- The tables that headers in double brackets have made, the last one being open. -/
  | tables (elements : List (List (String × Node)))

abbrev Nodes := Table String Node

/-- A change of a table, which may be refused. -/
abbrev Change := TableKind → Nodes → Option Nodes

/-- A change of the last element of a list. -/
def changeLast {α : Type} (change : α → Option α) : List α → Option (List α)
  | [] => none
  | [last] => return [← change last]
  | first :: rest => return first :: (← changeLast change rest)

namespace Nodes

/-- Changes the table at the end of a path. Tables that are missing on the way are made of kind
`made`; a list of tables is entered at its last element. `passable` tells what may be passed
through. -/
def changeAt (made : TableKind) (passable : TableKind → Bool) (change : Change) :
    TableKind → List String → Nodes → Option Nodes
  | kind, [], entries => change kind entries
  | _, key :: path, entries => do
    match entries.get? key with
    | none => return entries.put key (.table made (← changeAt made passable change made path []))
    | some (.value _) => none
    | some (.table kind inner) =>
      if passable kind then
        return entries.put key (.table kind (← changeAt made passable change kind path inner))
      else none
    | some (.tables elements) =>
      return entries.put key
        (.tables (← changeLast (changeAt made passable change .explicit path) elements))

/-- Changes a table that headers lead to. -/
def changeBelow (path : List String) (change : Change) (root : Nodes) : Option Nodes :=
  changeAt .implicit (fun _ => true) change .explicit path root

/-- Writes a value under a new key of a table. The table has been made by dotted keys exactly when it
is reached by one. -/
def write (dotted : Bool) (key : String) (value : Value) : Change := fun kind entries =>
  if (kind = .dotted) ≠ dotted ∨ entries.has key then none
  else some (entries.put key (.value value))

/-- Writes a value under a dotted key, from a table of some kind. -/
def assign (path : List String) (key : String) (value : Value) : Change := fun kind entries =>
  changeAt .dotted (· ≠ .explicit) (write (!path.isEmpty) key value) kind path entries

/-- Opens the table of a header. -/
def openTable (path : List String) (key : String) (root : Nodes) : Option Nodes :=
  root.changeBelow path fun _ entries =>
    match entries.get? key with
    | none => some (entries.put key (.table .explicit []))
    | some (.table .implicit inner) => some (entries.put key (.table .explicit inner))
    | _ => none

/-- Opens a new table at the end of a list of tables. -/
def openElement (path : List String) (key : String) (root : Nodes) : Option Nodes :=
  root.changeBelow path fun _ entries =>
    match entries.get? key with
    | none => some (entries.put key (.tables [[]]))
    | some (.tables elements) => some (entries.put key (.tables (elements ++ [[]])))
    | _ => none

end Nodes

mutual

/-- What a node stands for once the document is complete. -/
def Node.toValue : Node → Value
  | .value v => v
  | .table _ entries => .table (entriesToValues entries)
  | .tables elements => .array (elementsToValues elements)

def entriesToValues : List (String × Node) → List (String × Value)
  | [] => []
  | (key, node) :: entries => (key, node.toValue) :: entriesToValues entries

def elementsToValues : List (List (String × Node)) → List Value
  | [] => []
  | entries :: elements => .table (entriesToValues entries) :: elementsToValues elements

end

end Trellis.Toml
