import Trellis.Layer.Basic
import Trellis.Proofs.Steps
/-!
# Building layers

Building a layer runs the first provision of every tag and passes over the others: it is the same as
running those provisions one after the other. Which provisions these are is a matter of the tags
alone.

* `Layer.firsts` are the provisions that come first for their tag.
* `Layer.runAll` runs provisions, each once, in a context with the results of those before it.
* `Layer.Realizes` is what a run without a failure amounts to, provision by provision.
-/

namespace Trellis

namespace Layer

/-- The provisions that come first for their tag, when the tags `bound` are bound before. -/
def firsts (bound : List Tag) : Layer → Layer
  | [] => []
  | provision :: rest =>
    if provision.tag ∈ bound then firsts bound rest
    else provision :: firsts (bound ++ [provision.tag]) rest

/-- Runs provisions in order, each of a tag that is not bound yet. -/
def runAll (context : Context) : Layer → Build Context
  | [] => pure context
  | provision :: rest => do
    let subject ← provision.run context
    runAll (context ++ [(provision.tag, subject)]) rest

/-- Every provision of a layer builds an instance in the context that holds what was built before
it; the ledger passes from one to the next. -/
inductive Realizes : Context → Layer → Ledger → Context → Ledger → Prop
  | nil (context : Context) (ledger : Ledger) : Realizes context [] ledger context ledger
  | cons {context : Context} {provision : Provision} {rest : Layer} {ledger mid after : Ledger}
      {subject : Instance} {result : Context}
      (built : (provision.build context).run ledger = (.ok subject, mid))
      (later : Realizes (context ++ [(provision.tag, subject)]) rest mid result after) :
      Realizes context (provision :: rest) ledger result after

variable {context result : Context} {layer : Layer} {provision : Provision} {ledger after : Ledger}
  {bound : List Tag}

/-! ## The first provisions -/

/-- The tags of the first provisions are the tags in order of their first occurrence. -/
theorem tags_firsts (bound : List Tag) (layer : Layer) :
    (layer.firsts bound).tags = (layer.tags.filter (· ∉ bound)).eraseDups := by
  induction layer generalizing bound with
  | nil => rfl
  | cons provision rest ih =>
    by_cases known : provision.tag ∈ bound
    · simpa [firsts, tags, known] using ih bound
    · have others : (tags rest).filter (· ∉ bound ++ [provision.tag]) =
          ((tags rest).filter (· ∉ bound)).filter fun tag => !tag == provision.tag := by
        rw [List.filter_filter]
        refine List.filter_congr fun tag _ => ?_
        simp [Bool.and_comm, Bool.beq_eq_decide_eq]
      have later := ih (bound ++ [provision.tag])
      rw [others] at later
      simpa [firsts, tags, known, List.eraseDups_cons] using later

/-- The first provisions have tags of their own, none of which was bound before. -/
theorem nodup_tags_firsts (bound : List Tag) (layer : Layer) :
    (layer.firsts bound).tags.Nodup ∧ ∀ tag ∈ (layer.firsts bound).tags, tag ∉ bound := by
  induction layer generalizing bound with
  | nil => simp [firsts, tags]
  | cons provision rest ih =>
    rw [firsts]
    split
    · exact ih bound
    next new =>
      obtain ⟨distinct, fresh⟩ := ih (bound ++ [provision.tag])
      simp only [tags, List.map_cons, List.nodup_cons, List.mem_cons] at distinct fresh ⊢
      refine ⟨⟨fun again => fresh _ again (by simp), distinct⟩, ?_⟩
      rintro tag (rfl | later)
      · exact new
      · exact fun before => fresh tag later (by simp [before])

/-- A provision whose tag has not occurred before is a first one. -/
theorem mem_firsts_of_split {before rest : Layer} (unbound : provision.tag ∉ bound)
    (new : provision.tag ∉ before.tags) :
    provision ∈ (before ++ provision :: rest).firsts bound := by
  induction before generalizing bound with
  | nil => simp [firsts, unbound]
  | cons other before ih =>
    simp only [tags, List.map_cons, List.mem_cons, not_or] at new
    rw [List.cons_append, firsts]
    split
    · exact ih unbound new.2
    · exact List.mem_cons_of_mem _ (ih (by simp [unbound, new.1]) new.2)

/-! ## Building runs the first provisions -/

theorem provide_of_bound (known : provision.tag ∈ Table.keys context) :
    provide context provision = pure context := by
  rw [provide, if_pos (Table.has_eq_true_iff.mpr known)]

theorem provide_of_unbound (new : provision.tag ∉ Table.keys context) :
    provide context provision = do
      let subject ← provision.run context
      return context ++ [(provision.tag, subject)] := by
  rw [provide, if_neg (mt Table.has_eq_true_iff.mp new)]
  refine bind_congr fun subject => ?_
  rw [Table.put_of_get?_eq_none subject (Table.get?_eq_none_iff.mpr new)]

/-- Continuing a context with a layer runs the first provisions of the tags that are not bound. -/
theorem extend_eq_runAll (context : Context) (layer : Layer) :
    extend context layer = runAll context (layer.firsts (Table.keys context)) := by
  induction layer generalizing context with
  | nil => rfl
  | cons provision rest ih =>
    rw [extend, List.foldlM_cons, firsts]
    -- The tags bound so far are the keys of the context, before and after a step.
    by_cases known : provision.tag ∈ Table.keys context
    · rw [if_pos known, provide_of_bound known, pure_bind]
      exact ih context
    · rw [if_neg known, provide_of_unbound known, bind_assoc, runAll]
      refine bind_congr fun subject => ?_
      have keys : Table.keys (context ++ [(provision.tag, subject)]) =
          Table.keys context ++ [provision.tag] := by simp [Table.keys]
      rw [pure_bind, ← keys]
      exact ih _

theorem build_eq_runAll (layer : Layer) : layer.build = runAll [] (layer.firsts []) :=
  extend_eq_runAll [] layer

/-! ## Runs without a failure -/

/-- A failure is told in other words, a success is not changed. -/
theorem run_eq_ok_iff {subject : Instance} :
    (provision.run context).run ledger = (.ok subject, after) ↔
      (provision.build context).run ledger = (.ok subject, after) := by
  have adapted : (provision.run context).run ledger =
      (((provision.build context).run ledger).1.mapError provision.failure,
        ((provision.build context).run ledger).2) := rfl
  rw [adapted]
  rcases (provision.build context).run ledger with ⟨fault | made, later⟩
  · exact ⟨nofun, nofun⟩
  · exact Iff.rfl

theorem runAll_eq_ok_iff :
    (runAll context layer).run ledger = (.ok result, after) ↔
      Realizes context layer ledger result after := by
  induction layer generalizing context ledger with
  | nil =>
    rw [runAll, Steps.run_pure]
    constructor
    · rintro ⟨⟩
      exact .nil _ _
    · rintro ⟨⟩
      rfl
  | cons provision rest ih =>
    rw [runAll, Steps.run_bind_eq_ok_iff]
    constructor
    · rintro ⟨subject, mid, built, later⟩
      exact .cons (run_eq_ok_iff.mp built) (ih.mp later)
    · rintro (_ | ⟨built, later⟩)
      exact ⟨_, _, run_eq_ok_iff.mpr built, ih.mpr later⟩

/-- What a run adds to a context is bound to the provisions' tags, in order. -/
theorem Realizes.exists_append (realizes : Realizes context layer ledger result after) :
    ∃ made : Context, result = context ++ made ∧ Table.keys made = layer.tags := by
  induction realizes with
  | nil context ledger => exact ⟨[], by simp, rfl⟩
  | @cons context provision rest _ _ _ subject _ _ _ ih =>
    obtain ⟨made, rfl, keys⟩ := ih
    refine ⟨(provision.tag, subject) :: made, by simp, ?_⟩
    simpa [Table.keys, tags] using keys

/-- Every provision of a run has built the instance that its tag is bound to. -/
theorem Realizes.exists_build (realizes : Realizes context layer ledger result after)
    (new : ∀ tag ∈ layer.tags, tag ∉ Table.keys context) (distinct : layer.tags.Nodup)
    (member : provision ∈ layer) :
    ∃ given before subject later, (provision.build given).run before = (.ok subject, later) ∧
      Table.get? result provision.tag = some subject := by
  induction realizes with
  | nil => cases member
  | @cons context first rest ledger mid _ subject result built later ih =>
    simp only [tags, List.map_cons, List.nodup_cons] at distinct
    rcases List.mem_cons.mp member with rfl | member
    · -- What comes later is appended, so the tag stays bound to this instance.
      obtain ⟨made, rfl, -⟩ := later.exists_append
      refine ⟨context, ledger, subject, mid, built, ?_⟩
      have unbound := Table.get?_eq_none_iff.mpr (new provision.tag (by simp [tags]))
      simp [Table.get?_append, unbound, Table.get?]
    · refine ih (fun tag here => ?_) distinct.2 member
      have apart : tag ≠ first.tag := ne_of_mem_of_not_mem here distinct.1
      have unbound := new tag (by simp [tags] at here ⊢; exact .inr here)
      simpa [Table.keys, apart] using unbound

/-- Whatever is bound after a run was bound before it or was built by a provision of the tag. -/
theorem Realizes.exists_provision {tag : Tag} {subject : Instance}
    (realizes : Realizes context layer ledger result after) (bound : (tag, subject) ∈ result) :
    (tag, subject) ∈ context ∨ ∃ provision ∈ layer, provision.tag = tag ∧
      ∃ given before later, (provision.build given).run before = (.ok subject, later) := by
  induction realizes with
  | nil => exact .inl bound
  | @cons context first rest ledger mid _ made result built later ih =>
    rcases ih bound with before | ⟨provision, member, same, run⟩
    · rcases List.mem_append.mp before with known | new
      · exact .inl known
      · obtain ⟨rfl, rfl⟩ := Prod.mk.inj (List.mem_singleton.mp new)
        exact .inr ⟨first, List.mem_cons_self, rfl, context, ledger, mid, built⟩
    · exact .inr ⟨provision, List.mem_cons_of_mem _ member, same, run⟩

theorem mem_of_mem_firsts (first : provision ∈ layer.firsts bound) : provision ∈ layer := by
  induction layer generalizing bound with
  | nil => cases first
  | cons other rest ih =>
    rw [firsts] at first
    split at first
    · exact List.mem_cons_of_mem _ (ih first)
    · rcases List.mem_cons.mp first with rfl | later
      · exact List.mem_cons_self
      · exact List.mem_cons_of_mem _ (ih later)

/-- Whatever a layer binds, one of its provisions of the tag built it. -/
theorem exists_provision_of_build {tag : Tag} {subject : Instance}
    (built : layer.build.run ledger = (.ok result, after)) (bound : (tag, subject) ∈ result) :
    ∃ provision ∈ layer, provision.tag = tag ∧
      ∃ given before later, (provision.build given).run before = (.ok subject, later) := by
  rw [build_eq_runAll, runAll_eq_ok_iff] at built
  rcases built.exists_provision bound with nothing | ⟨provision, first, same, run⟩
  · cases nothing
  · exact ⟨provision, mem_of_mem_firsts first, same, run⟩

/-- A context that a layer built has the layer's tags in order of their first occurrence. -/
theorem keys_of_build (built : layer.build.run ledger = (.ok result, after)) :
    Table.keys result = layer.tags.eraseDups := by
  rw [build_eq_runAll, runAll_eq_ok_iff] at built
  obtain ⟨made, rfl, keys⟩ := built.exists_append
  rw [keys, tags_firsts, List.filter_eq_self.mpr fun _ _ => by simp]

theorem nodup_keys_of_build (built : layer.build.run ledger = (.ok result, after)) :
    (Table.keys result).Nodup := by
  rw [build_eq_runAll, runAll_eq_ok_iff] at built
  obtain ⟨made, rfl, keys⟩ := built.exists_append
  rw [keys]
  exact (nodup_tags_firsts [] layer).1

end Layer

end Trellis
