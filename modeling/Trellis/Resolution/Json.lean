import Trellis.Object.Json
import Trellis.Resolution.Resolver
/-!
# Parameters and resolutions as JSON
-/

namespace Trellis

def Signature.Param.toJson (param : Signature.Param) : Json :=
  .object
    [ ("name", .string param.name),
      ("type_name", .optString param.typeName),
      ("destructured", .bool param.destructured),
      ("reserved", .bool param.isReserved) ]

def UnresolvedParam.toJson (param : UnresolvedParam) : Json :=
  .object
    [ ("name", .string param.name),
      ("type_name", .optString param.typeName),
      ("candidate", .string param.candidate),
      ("text", .string param.text) ]

namespace Resolution

/-- The dependencies of a complete resolution, or the names of the parameters that match nothing. -/
def outcomeJson (resolution : Resolution) : Json :=
  if resolution.isComplete then
    .object [("ok", .strings (resolution.dependencies.map (·.name)))]
  else .object [("err", .strings (resolution.unresolved.map (·.name)))]

def toJson (resolution : Resolution) : Json :=
  .object
    [ ("source", .string resolution.source.name),
      ("dependencies", .strings (resolution.dependencies.map (·.name))),
      ("ids", .strings (resolution.dependencies.map (·.id))),
      ("unresolved", .array (resolution.unresolved.map UnresolvedParam.toJson)),
      ("complete", .bool resolution.isComplete),
      ("into_result", resolution.outcomeJson) ]

end Resolution

def ReflectionTier.name : ReflectionTier → String
  | .host => "host"
  | .store => "store"

/-- The types of a constructor with the tier that named them. -/
def foundTypesJson (found : ReflectionTier × List Class) : Json :=
  .object [("tier", .string found.1.name), ("types", .strings (found.2.map (·.name)))]

end Trellis
