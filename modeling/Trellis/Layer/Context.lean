import Trellis.Object.Construction
import Trellis.Table
/-!
# Contexts

A context binds tags to instances, one instance a tag, in the order of binding.
-/

namespace Trellis

/-- Instances by their tags. -/
abbrev Context := Table Tag Instance

namespace Context

/-- The instance bound to the first tag with this identifier. -/
def getByIdentifier? : Context → String → Option Instance
  | [], _ => none
  | (tag, bound) :: rest, identifier =>
    if tag.identifier = identifier then some bound else getByIdentifier? rest identifier

/-- The instance bound to a tag or, if there is none, to a tag with its identifier. -/
def find? (context : Context) (tag : Tag) : Option Instance :=
  (context.get? tag).or (context.getByIdentifier? tag.identifier)

/-- The first instance of a class. -/
def ofClass? (context : Context) (cls : Class) : Option Instance :=
  (Table.values context).find? (Instance.isOf cls)

/-- The instance bound to a tag, when it is of the class. -/
def getAs? (context : Context) (tag : Tag) (cls : Class) : Option Instance :=
  (context.get? tag).filter (Instance.isOf cls)

end Context

end Trellis
