import Trellis.Proofs.Layer.Build
import Trellis.Proofs.Layer.Lookup
/-!
# What building a layer comes to

A build of a layer runs the first provision of every tag, in order, until one of them fails. Each is
given the context of what was built before it; the rest of the layer is never run. What a failure is
told as is always that something could not be constructed.

* `Layer.leaders` are the first provisions of the tags, found tag by tag.
* `Layer.Comes` is what running provisions comes to, with or without a failure.
* `build_comes_to` says that this is what building a layer comes to, and what follows from it.
-/

namespace Trellis

/-- A failure of a provision is one of construction, whatever was the matter. -/
theorem Provision.isOfConstruction_failure (provision : Provision) (error : Error) :
    (provision.failure error).isOfConstruction := by
  rw [failure]
  split
  next told => exact told
  next => rfl

/-- The errors that tell what could not be constructed are those of two kinds. -/
theorem Error.isOfConstruction_iff (error : Error) :
    error.isOfConstruction ↔ error.kind = "Construction" ∨ error.kind = "MissingLogger" := by
  cases error <;> simp [isOfConstruction, kind]

namespace Layer

/-- The first provision of every tag, in the order in which the tags first occur. -/
def leaders (layer : Layer) : Layer :=
  layer.tags.eraseDups.filterMap fun tag => layer.find? (·.tag = tag)

/-- What running provisions in order comes to. A failure of one is the end of the run, and what it was
about is told; the ledger keeps what was written until then. -/
inductive Comes : Context → Layer → Ledger → Except Error Context → Ledger → Prop
  | built {context result : Context} {layer : Layer} {ledger after : Ledger}
      (realizes : Realizes context layer ledger result after) :
      Comes context layer ledger (.ok result) after
  | failed {context given : Context} {done never : Layer} {failing : Provision}
      {ledger mid after : Ledger} {error : Error}
      (realizes : Realizes context done ledger given mid)
      (failed : (failing.build given).run mid = (.error error, after)) :
      Comes context (done ++ failing :: never) ledger (.error (failing.failure error)) after

variable {context result : Context} {layer other done rest never : Layer} {provision : Provision}
  {ledger after : Ledger} {bound : List Tag} {outcome : Except Error Context}

/-! ## The first provisions, tag by tag -/

theorem find?_tag_of_mem_firsts (first : provision ∈ layer.firsts bound) :
    layer.find? (·.tag = provision.tag) = some provision := by
  induction layer generalizing bound with
  | nil => cases first
  | cons leading rest ih =>
    have fresh := (nodup_tags_firsts bound (leading :: rest)).2 _ (List.mem_map_of_mem first)
    have distinct := (nodup_tags_firsts bound (leading :: rest)).1
    rw [firsts] at first distinct
    split at first
    next known =>
      -- The leading provision is of another tag, since its tag is bound.
      have apart : leading.tag ≠ provision.tag := fun same => fresh (same ▸ known)
      rw [List.find?_cons_of_neg (by simpa using apart)]
      exact ih first
    next new =>
      rw [if_neg new] at distinct
      rcases List.mem_cons.mp first with rfl | later
      · exact List.find?_cons_of_pos (by simp)
      · have apart : leading.tag ≠ provision.tag := by
          intro same
          have again : provision.tag ∈ Layer.tags (Layer.firsts (bound ++ [leading.tag]) rest) :=
            List.mem_map_of_mem later
          rw [← same] at again
          exact (List.nodup_cons.mp distinct).1 again
        rw [List.find?_cons_of_neg (by simpa using apart)]
        exact ih later

theorem firsts_nil_eq_leaders (layer : Layer) : layer.firsts [] = layer.leaders := by
  have tags : (layer.firsts []).tags = layer.tags.eraseDups := by
    rw [tags_firsts, List.filter_eq_self.mpr fun _ _ => by simp]
  have found : (layer.firsts []).filterMap (fun first => layer.find? (·.tag = first.tag)) =
      (layer.firsts []).filterMap some :=
    List.filterMap_congr fun _ first => find?_tag_of_mem_firsts first
  rw [leaders, ← tags, Layer.tags, List.filterMap_map]
  exact (found.trans List.filterMap_some).symm

/-! ## Runs -/

/-- A run without a failure goes through each of its provisions, given what was built until then. -/
theorem Realizes.split (realizes : Realizes context (done ++ provision :: rest) ledger result after) :
    ∃ made subject left mid next, result = made ++ (provision.tag, subject) :: left ∧
      Realizes context done ledger made mid ∧
      (provision.build made).run mid = (.ok subject, next) := by
  induction done generalizing context ledger with
  | nil =>
    cases realizes with
    | @cons _ _ _ _ mid _ subject _ built later =>
      obtain ⟨left, rfl, -⟩ := later.exists_append
      exact ⟨context, subject, left, ledger, mid, by simp, .nil _ _, built⟩
  | cons first others ih =>
    cases realizes with
    | cons built later =>
      obtain ⟨made, subject, left, mid, next, split, before, ran⟩ := ih later
      exact ⟨made, subject, left, mid, next, split, .cons built before, ran⟩

theorem Comes.cons {subject : Instance} {mid : Ledger}
    (built : (provision.build context).run ledger = (.ok subject, mid))
    (later : Comes (context ++ [(provision.tag, subject)]) layer mid outcome after) :
    Comes context (provision :: layer) ledger outcome after := by
  cases later with
  | built realizes => exact .built (.cons built realizes)
  | @failed _ done never failing _ _ _ _ realizes failed =>
    show Comes context ((provision :: done) ++ failing :: never) _ _ _
    exact .failed (.cons built realizes) failed

theorem run_eq_error_of_build {error : Error}
    (failed : (provision.build context).run ledger = (.error error, after)) :
    (provision.run context).run ledger = (.error (provision.failure error), after) := by
  have adapted : (provision.run context).run ledger =
      (((provision.build context).run ledger).1.mapError provision.failure,
        ((provision.build context).run ledger).2) := rfl
  rw [adapted, failed]
  rfl

/-- Provisions come to something. -/
theorem comes_runAll (context : Context) (layer : Layer) (ledger : Ledger) :
    Comes context layer ledger ((runAll context layer).run ledger).1
      ((runAll context layer).run ledger).2 := by
  induction layer generalizing context ledger with
  | nil => exact .built (.nil context ledger)
  | cons provision rest ih =>
    rcases ran : (provision.build context).run ledger with ⟨error | subject, mid⟩
    · rw [runAll, Steps.run_bind_of_error (run_eq_error_of_build ran)]
      show Comes context ([] ++ provision :: rest) _ _ _
      exact .failed (.nil context ledger) ran
    · rw [runAll, Steps.run_bind_of_ok (run_eq_ok_iff.mpr ran)]
      exact (ih _ mid).cons ran

/-- Provisions that are realized before others are run first. -/
theorem Realizes.run_append {made : Context} {mid : Ledger}
    (realizes : Realizes context done ledger made mid) (rest : Layer) :
    (runAll context (done ++ rest)).run ledger = (runAll made rest).run mid := by
  induction realizes with
  | nil => rfl
  | cons built later ih =>
    rw [List.cons_append, runAll, Steps.run_bind_of_ok (run_eq_ok_iff.mpr built), ih]

/-- They come to nothing else. -/
theorem comes_iff_runAll :
    Comes context layer ledger outcome after ↔
      (runAll context layer).run ledger = (outcome, after) := by
  constructor
  · intro comes
    cases comes with
    | built realizes => exact runAll_eq_ok_iff.mpr realizes
    | failed realizes failed =>
      rw [realizes.run_append, runAll]
      exact Steps.run_bind_of_error (run_eq_error_of_build failed)
  · intro ran
    have comes := comes_runAll context layer ledger
    rwa [ran] at comes

/-! ## Building a layer -/

theorem build_eq_runAll_leaders (layer : Layer) : layer.build = runAll [] layer.leaders := by
  rw [build_eq_runAll, firsts_nil_eq_leaders]

/-- Building a layer comes to what its leaders come to, and to nothing else. -/
theorem comes_iff_build :
    Comes [] layer.leaders ledger outcome after ↔ layer.build.run ledger = (outcome, after) := by
  rw [build_eq_runAll_leaders]
  exact comes_iff_runAll

/-- Provisions that are no leaders are never run. -/
theorem build_congr (same : other.leaders = layer.leaders) : other.build = layer.build := by
  rw [build_eq_runAll_leaders, build_eq_runAll_leaders layer, same]

/-- In a layer that was built, a leader was given what had been built before it, and the context binds
its tag to what it built. -/
theorem exists_build_of_leader (ran : layer.build.run ledger = (.ok result, after))
    (split : layer.leaders = done ++ provision :: rest) :
    ∃ made subject left mid next, result = made ++ (provision.tag, subject) :: left ∧
      Realizes [] done ledger made mid ∧ (provision.build made).run mid = (.ok subject, next) ∧
      Table.get? result provision.tag = some subject := by
  have comes := comes_iff_build.mpr ran
  rw [split] at comes
  generalize run : done ++ provision :: rest = provisions at comes
  cases comes with
  | built realizes =>
    rw [← run] at realizes
    obtain ⟨made, subject, left, mid, next, parts, before, built⟩ := realizes.split
    refine ⟨made, subject, left, mid, next, parts, before, built, ?_⟩
    refine (Table.get?_eq_some_iff_mem (nodup_keys_of_build ran)).mpr ?_
    rw [parts]
    exact List.mem_append_right _ List.mem_cons_self

/-- A layer that was not built has a leader that failed, given what all leaders before it had built. -/
theorem exists_failing_of_build {error : Error}
    (ran : layer.build.run ledger = (.error error, after)) :
    ∃ done failing never given mid cause, layer.leaders = done ++ failing :: never ∧
      Realizes [] done ledger given mid ∧
      (failing.build given).run mid = (.error cause, after) ∧ error = failing.failure cause := by
  have comes := comes_iff_build.mpr ran
  generalize leaders : layer.leaders = provisions at comes
  cases comes with
  | @failed given done never failing _ mid _ cause realizes failed =>
    exact ⟨done, failing, never, given, mid, cause, rfl, realizes, failed, rfl⟩

/-- Building a layer comes to what its leaders come to, and a layer with the same leaders is built in
the same way, so nothing else is ever run.

Without a failure the context has the tags in the order of their first occurrence. Each leader built
the instance of its tag, given exactly what stands before it in the context. With a failure the leaders
before the failing one were built, the failing one was given exactly what they built, and what comes
after it makes no difference. The error tells what could not be constructed: it is the one that the
provision failed with, if that already told so, and has it as its source otherwise. -/
theorem build_comes_to (layer : Layer) (ledger : Ledger) :
    let built := layer.build.run ledger
    (∀ result after, Comes [] layer.leaders ledger result after ↔ built = (result, after)) ∧
      (∀ other : Layer, other.leaders = layer.leaders → other.build = layer.build) ∧
      (∀ context, built.1 = .ok context →
        Table.keys context = layer.tags.eraseDups ∧
          ∀ done provision rest, layer.leaders = done ++ provision :: rest →
            ∃ made subject left mid next, context = made ++ (provision.tag, subject) :: left ∧
              Realizes [] done ledger made mid ∧
              (provision.build made).run mid = (.ok subject, next) ∧
              Table.get? context provision.tag = some subject) ∧
      ∀ error, built.1 = .error error →
        (error.kind = "Construction" ∨ error.kind = "MissingLogger") ∧
          ∃ done failing never given mid cause, layer.leaders = done ++ failing :: never ∧
            Realizes [] done ledger given mid ∧ Table.keys given = done.tags ∧
            (failing.build given).run mid = (.error cause, built.2) ∧
            (cause.isOfConstruction → error = cause) ∧
            (cause.isOfConstruction = false →
              error = .construction failing.label "layer provision failed" (some cause) ∧
                error.source? = some cause) ∧
            ∀ (other : Layer) (instead : Layer), other.leaders = done ++ failing :: instead →
              other.build.run ledger = built := by
  intro built
  refine ⟨fun result after => comes_iff_build, fun other same => build_congr same,
    fun context worked => ?_, fun error failed => ?_⟩
  · have ran : layer.build.run ledger = (.ok context, built.2) := Prod.ext worked rfl
    exact ⟨keys_of_build ran, fun done provision rest split => exists_build_of_leader ran split⟩
  · have ran : layer.build.run ledger = (.error error, built.2) := Prod.ext failed rfl
    obtain ⟨done, failing, never, given, mid, cause, split, realizes, broke, rfl⟩ :=
      exists_failing_of_build ran
    refine ⟨(Error.isOfConstruction_iff _).mp (failing.isOfConstruction_failure cause), done,
      failing, never, given, mid, cause, split, realizes, ?_, broke, fun told => if_pos told,
      fun untold => ?_, fun other instead same => ?_⟩
    · obtain ⟨made, rfl, keys⟩ := realizes.exists_append
      exact keys
    · have wrapped : failing.failure cause =
          .construction failing.label "layer provision failed" (some cause) := by
        rw [Provision.failure, untold]
        rfl
      exact ⟨wrapped, by rw [wrapped]; rfl⟩
    · -- The same leader fails in the other layer, in the same state.
      have again : Comes [] other.leaders ledger (.error (failing.failure cause)) built.2 := by
        rw [same]
        exact .failed realizes broke
      rw [comes_iff_build.mp again, ← ran]

/-- The second of two provisions with one tag is not run when the first one fails. -/
example (later : Context → Build Instance) :
    let tag : Tag := .custom 0 "clock"
    let stuck : Provision :=
      { tag, label := "Clock", build := fun _ => throw (.internal "the hands are stuck") }
    (build [stuck, { tag, label := "Clock", build := later }]).run {} =
      (.error (.construction "Clock" "layer provision failed" (some (.internal "the hands are stuck"))),
        {}) := rfl

end Layer

end Trellis
