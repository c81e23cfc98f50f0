import Trellis.Layer.Context
/-!
# Layers

A layer says how to fill a context without doing it: a list of provisions, each a tag, a label and a
way to build the instance from what is already bound. Building a layer runs the first provision of
every tag, in order, and stops at the first failure; provisions of tags already bound are passed
over.
-/

namespace Trellis

/-- How to build the instance of one tag. -/
structure Provision where
  tag : Tag
  /-- What a failure is told about. -/
  label : String
  build : Context → Build Instance

/-- Provisions in order, repetitions included. -/
abbrev Layer := List Provision

namespace Layer

/-- The layer that binds an instance which is there already. -/
def succeed (tag : Tag) (subject : Instance) : Layer :=
  [{ tag, label := subject.cls.name, build := fun _ => pure subject }]

/-- The layer that builds one instance. -/
def single (tag : Tag) (label : String) (build : Context → Build Instance) : Layer :=
  [{ tag, label, build }]

/-- The provisions of both, the second layer's after the first's. -/
def merge (layer other : Layer) : Layer :=
  layer ++ other

def mergeAll (layers : List Layer) : Layer :=
  layers.flatten

def tags (layer : Layer) : List Tag :=
  layer.map (·.tag)

def provides (layer : Layer) (tag : Tag) : Bool :=
  layer.any (·.tag = tag)

end Layer

/-- A failure as the failure of a provision. An error that already tells what could not be
constructed stays as it is. -/
def Provision.failure (provision : Provision) (error : Error) : Error :=
  if error.isOfConstruction then error
  else .construction provision.label "layer provision failed" (some error)

/-- Runs a provision. -/
def Provision.run (provision : Provision) (context : Context) : Build Instance :=
  ExceptT.adapt provision.failure (provision.build context)

namespace Layer

/-- Binds what a provision builds, unless its tag is bound. -/
def provide (context : Context) (provision : Provision) : Build Context :=
  if Table.has context provision.tag then pure context
  else do
    let built ← provision.run context
    return Table.put context provision.tag built

/-- Continues a context with a layer. -/
def extend (context : Context) (layer : Layer) : Build Context :=
  layer.foldlM provide context

/-- Realizes a layer. -/
def build (layer : Layer) : Build Context :=
  extend [] layer

end Layer

end Trellis
