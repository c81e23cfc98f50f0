import Trellis.Object.Class
/-!
# Service tags

A tag is what a service is bound to. Every class has one canonical tag in each registry; any number
of other tags may be made by hand. Two tags are the same only if they were made as the same one:
tags with equal identifiers are still apart, though lookups fall back to the identifier.
-/

namespace Trellis

/-- A tag. -/
inductive Tag where
  /-- The tag a registry gives to a class of its own accord. -/
  | canonical (registry : String) (cls : Class)
  /-- A tag made by hand, told apart from all others by its number. -/
  | custom (number : Nat) (identifier : String)
  deriving DecidableEq, Repr

namespace Tag

/-- The name a tag goes by; a canonical tag goes by the name of its class. -/
def identifier : Tag → String
  | canonical _ cls => cls.name
  | custom _ identifier => identifier

/-- Whether one tag may stand in for the other. -/
def isLike (tag other : Tag) : Bool :=
  tag = other || tag.identifier = other.identifier

end Tag

end Trellis
