import Mathlib.Data.List.Forall2
import Trellis.Layer.Basic
import Trellis.Proofs.Steps
/-!
# Building side by side

Two layers are built, each in its own context. If their provisions go in pairs and each pair leads from
related contexts to related contexts, or fails alike, then so do the layers. What it takes for a pair
is that both tags are bound already or neither is, and that related instances are built.
-/

namespace Trellis

namespace Layer

variable {states : Ledger → Ledger → Prop} {contexts : Context → Context → Prop}
  {instances : Instance → Instance → Prop} {provisions : Provision → Provision → Prop}
  {context again : Context}

theorem twins_provide {one other : Provision} (related : contexts context again)
    (label : one.label = other.label)
    (bound : Table.has context one.tag = Table.has again other.tag)
    (built : Steps.Twins states instances (one.build context) (other.build again))
    (put : ∀ subject object, instances subject object →
      contexts (Table.put context one.tag subject) (Table.put again other.tag object)) :
    Steps.Twins states contexts (provide context one) (provide again other) := by
  have failure : one.failure = other.failure := by
    funext error
    rw [Provision.failure, Provision.failure, label]
  rw [provide, provide, bound]
  split
  · exact .pure related
  · rw [Provision.run, Provision.run, failure]
    refine Steps.Twins.bind (built.adapt other.failure) fun subject object made => ?_
    exact .pure (put subject object made)

/-- Provision by provision, related contexts are extended to related contexts. -/
theorem twins_extend {layer other : Layer}
    (each : ∀ one another, provisions one another → ∀ ⦃given given' : Context⦄,
      contexts given given' → Steps.Twins states contexts (provide given one) (provide given' another))
    (layers : List.Forall₂ provisions layer other) (related : contexts context again) :
    Steps.Twins states contexts (extend context layer) (extend again other) := by
  induction layers generalizing context again with
  | nil => exact .pure related
  | cons first _ ih =>
    rw [extend, extend, List.foldlM_cons, List.foldlM_cons]
    exact Steps.Twins.bind (each _ _ first related) fun _ _ next => ih next

end Layer

end Trellis
