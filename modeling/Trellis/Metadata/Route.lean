import Trellis.Json.Decode
import Trellis.Text.Quoted
/-!
# Routes and parameters

What route and parameter decorators record about the handlers of a controller, and the path a route
has under its controller's base path.
-/

namespace Trellis

/-- What a handler answers to. -/
inductive HttpMethod where
  | get
  | post
  | put
  | patch
  | delete
  | options
  | head
  | all
  deriving DecidableEq, Repr

namespace HttpMethod

def name : HttpMethod → String
  | .get => "GET"
  | .post => "POST"
  | .put => "PUT"
  | .patch => "PATCH"
  | .delete => "DELETE"
  | .options => "OPTIONS"
  | .head => "HEAD"
  | .all => "ALL"

def every : List HttpMethod := [.get, .post, .put, .patch, .delete, .options, .head, .all]

def decode : Json.Decoder HttpMethod :=
  Json.decodeChoice (every.map fun method => (method.name, method))

end HttpMethod

/-- Where a handler's parameter comes from. -/
inductive ParamKind where
  | path
  | query
  | body
  | header
  | request
  | response
  deriving DecidableEq, Repr

namespace ParamKind

def name : ParamKind → String
  | .path => "path"
  | .query => "query"
  | .body => "body"
  | .header => "header"
  | .request => "request"
  | .response => "response"

/-- The name as it stands in a full description of a parameter. -/
def title : ParamKind → String
  | .path => "Path"
  | .query => "Query"
  | .body => "Body"
  | .header => "Header"
  | .request => "Request"
  | .response => "Response"

def every : List ParamKind := [.path, .query, .body, .header, .request, .response]

def decode : Json.Decoder ParamKind :=
  Json.decodeChoice (every.map fun kind => (kind.name, kind))

end ParamKind

/-- A named check of a parameter's value. Validators are compared by name. -/
structure Validator where
  name : String
  check : Json → Except String Unit

instance : BEq Validator := ⟨fun a b => a.name == b.name⟩

/-- What a parameter decorator records. -/
structure ParamMetadata where
  kind : ParamKind
  name : String
  index : Nat
  required : Bool := false
  validator : Option Validator := none

namespace ParamMetadata

instance : BEq ParamMetadata where
  beq a b := a.kind == b.kind && a.name == b.name && a.index == b.index &&
    a.required == b.required && a.validator == b.validator

/-- The full description of a parameter. -/
def describe (param : ParamMetadata) : String :=
  let validator :=
    match param.validator with
    | none => "None"
    | some validator => "Some(ParamValidator(" ++ Text.quoted validator.name ++ "))"
  "ParamMetadata \x7b kind: " ++ param.kind.title ++ ", name: " ++ Text.quoted param.name ++
    ", index: " ++ toString param.index ++ ", required: " ++ toString param.required ++
    ", validator: " ++ validator ++ " \x7d"

end ParamMetadata

/-- What a route decorator records. -/
structure RouteMetadata where
  method : HttpMethod
  path : String
  handler : String
  params : List ParamMetadata := []
  middleware : List String := []

instance : BEq RouteMetadata where
  beq a b := a.path == b.path && a.method == b.method && a.handler == b.handler &&
    a.params == b.params && a.middleware == b.middleware

/-- A path under a base path: slashes at the end of the base and at the start of the path are
dropped, and one slash joins what is left. -/
def joinPathChars (base path : List Char) : List Char :=
  let base := (base.reverse.dropWhile (· == '/')).reverse
  let path := path.dropWhile (· == '/')
  if base.isEmpty then '/' :: path
  else if path.isEmpty then base
  else base ++ '/' :: path

def joinPath (base path : String) : String :=
  String.ofList (joinPathChars base.toList path.toList)

/-- The path of a route under its controller's base path. -/
def RouteMetadata.fullPath (route : RouteMetadata) (basePath : String) : String :=
  joinPath basePath route.path

end Trellis
