import Trellis.Proofs.Layer.Outcome
import Trellis.Proofs.Layer.Twins
/-!
# Merging layers

A merged layer is built by building the first layer and going on with the second one in the context
that came of it. Of the second layer only the newcomers are run: the first provisions of the tags that
the first layer left unbound. So a layer that is merged once more adds nothing, wherever it stands
behind the first time, also when one of its provisions fails.

* `Layer.newcomers` are the provisions that a layer adds to a context.
* `Provision.IsPure` says that a provision does no more than to build.
* `build_merged` puts together what merging comes to.
-/

namespace Trellis

/-- What the provision builds is a matter of the context it is given, and it writes nothing. -/
def Provision.IsPure (provision : Provision) : Prop :=
  ∃ make : Context → Except Error Instance,
    ∀ given, provision.build given = Build.ofExcept (make given)

namespace Layer

variable {layer other a b c : Layer} {context result : Context} {provision : Provision}
  {ledger after final : Ledger} {bound : List Tag} {outcome : Except Error Context}

/-- The first provisions of the tags that are not bound in a context. -/
def newcomers (context : Context) (layer : Layer) : Layer :=
  layer.leaders.filter (·.tag ∉ Table.keys context)

/-! ## The first provisions of merged layers -/

/-- Which tags are bound is no matter of their order. -/
theorem firsts_congr {known : List Tag} (same : ∀ tag, tag ∈ bound ↔ tag ∈ known) (layer : Layer) :
    layer.firsts bound = layer.firsts known := by
  induction layer generalizing bound known with
  | nil => rfl
  | cons provision rest ih =>
    have longer : ∀ tag, tag ∈ bound ++ [provision.tag] ↔ tag ∈ known ++ [provision.tag] := by
      simp [same]
    rw [firsts, firsts, ih same, ih longer]
    simp only [same]

/-- Tags that are bound besides take provisions away and leave the others in order. -/
theorem firsts_append_eq_filter (bound known : List Tag) (layer : Layer) :
    layer.firsts (bound ++ known) = (layer.firsts known).filter (·.tag ∉ bound) := by
  induction layer generalizing known with
  | nil => rfl
  | cons provision rest ih =>
    by_cases met : provision.tag ∈ known
    · simpa [firsts, met] using ih known
    · have later := ih (known ++ [provision.tag])
      by_cases here : provision.tag ∈ bound
      · -- The tag is bound already, so it makes no difference that it is met now.
        have same : firsts (bound ++ known) rest =
            firsts (bound ++ (known ++ [provision.tag])) rest := by
          refine firsts_congr (fun tag => ?_) rest
          have again : tag = provision.tag → tag ∈ bound := fun same => same ▸ here
          simp only [List.mem_append, List.mem_singleton]
          tauto
        simp [firsts, met, here, same, later]
      · simp [firsts, met, here, later]

theorem newcomers_eq_firsts (context : Context) (layer : Layer) :
    layer.newcomers context = layer.firsts (Table.keys context) := by
  rw [newcomers, ← firsts_nil_eq_leaders, ← firsts_append_eq_filter, List.append_nil]

theorem firsts_append (bound : List Tag) (layer other : Layer) :
    (layer ++ other).firsts bound =
      layer.firsts bound ++ other.firsts (bound ++ (layer.firsts bound).tags) := by
  induction layer generalizing bound with
  | nil => simp [firsts, tags]
  | cons provision rest ih =>
    by_cases known : provision.tag ∈ bound
    · simpa [firsts, known] using ih bound
    · simpa [firsts, known, tags] using ih (bound ++ [provision.tag])

/-- Every tag of a layer was bound before or has a first provision. -/
theorem mem_tags_firsts {tag : Tag} (bound : List Tag) (member : tag ∈ layer.tags) :
    tag ∈ bound ++ (layer.firsts bound).tags := by
  rw [tags_firsts, List.mem_append, List.mem_eraseDups, List.mem_filter]
  by_cases known : tag ∈ bound
  · exact .inl known
  · exact .inr ⟨member, by simpa using known⟩

theorem firsts_of_bound (known : ∀ tag ∈ layer.tags, tag ∈ bound) : layer.firsts bound = [] := by
  induction layer with
  | nil => rfl
  | cons provision rest ih =>
    simp only [tags, List.map_cons, List.forall_mem_cons] at known
    rw [firsts, if_pos known.1]
    exact ih known.2

/-- A layer has no first provisions behind itself, whatever stands in between. -/
theorem firsts_merge_again (a b c : Layer) :
    (((a.merge b).merge a).merge c).firsts [] = ((a.merge b).merge c).firsts [] := by
  have absorbed : a.firsts ((a.merge b).firsts []).tags = [] := by
    refine firsts_of_bound fun tag member => ?_
    have merged : tag ∈ (a.merge b).tags := by simp [merge, tags] at member ⊢; exact .inl member
    exact mem_tags_firsts [] merged
  show (a.merge b ++ a ++ c).firsts [] = (a.merge b ++ c).firsts []
  rw [firsts_append, firsts_append [] (a.merge b) a, firsts_append [] (a.merge b) c]
  simp [absorbed]

/-! ## Building merged layers -/

theorem build_merge_again (a b c : Layer) :
    (((a.merge b).merge a).merge c).build = ((a.merge b).merge c).build := by
  rw [build_eq_runAll, build_eq_runAll, firsts_merge_again]

/-- What comes of the second layer is what comes of its newcomers. -/
theorem run_build_merge (b : Layer) (built : a.build.run ledger = (.ok context, after)) :
    (a.merge b).build.run ledger = (runAll context (b.newcomers context)).run after := by
  have split : (a.merge b).build = a.build >>= fun context => extend context b :=
    List.foldlM_append
  rw [split, Steps.run_bind_of_ok built, extend_eq_runAll, newcomers_eq_firsts]

/-- The new part of a context that provisions add to. -/
theorem Realizes.exists_added (realizes : Realizes context layer ledger result after) :
    ∃ made : Context, result = context ++ made ∧ Table.keys made = layer.tags ∧
      ∀ done provision rest, layer = done ++ provision :: rest →
        ∃ before subject left mid next, made = before ++ (provision.tag, subject) :: left ∧
          Table.keys before = tags done ∧
          (provision.build (context ++ before)).run mid = (.ok subject, next) := by
  obtain ⟨made, rfl, keys⟩ := realizes.exists_append
  refine ⟨made, rfl, keys, ?_⟩
  rintro done provision rest rfl
  obtain ⟨given, subject, left, mid, next, parts, earlier, ran⟩ := realizes.split
  obtain ⟨before, rfl, met⟩ := earlier.exists_append
  rw [List.append_assoc] at parts
  exact ⟨before, subject, left, mid, next, List.append_cancel_left parts, met, ran⟩

/-- Without effects a layer comes to the same in whatever state it is built. -/
theorem outcome_build_of_pure (pure : ∀ provision ∈ layer, provision.IsPure)
    (ledger other : Ledger) : (layer.build.run ledger).1 = (layer.build.run other).1 := by
  let alike (one again : Provision) : Prop := one = again ∧ one.IsPure
  have each : ∀ one again, alike one again → ∀ ⦃given given' : Context⦄, given = given' →
      Steps.Twins (fun _ _ => True) Eq (provide given one) (provide given' again) := by
    rintro one _ ⟨rfl, make, builds⟩ given _ rfl
    have built : Steps.Twins (fun _ _ : Ledger => True) Eq (one.build given) (one.build given) := by
      rw [builds]
      rintro start begin -
      refine ⟨?_, trivial⟩
      show Steps.Matches Eq (make given) (make given)
      cases make given with
      | error fault => exact .error fault
      | ok subject => exact .ok rfl
    exact twins_provide rfl rfl rfl built fun subject object same => by rw [same]
  have pairs : List.Forall₂ alike layer layer :=
    List.forall₂_same.mpr fun provision member => ⟨rfl, pure provision member⟩
  have twins : Steps.Twins (fun _ _ => True) Eq layer.build layer.build :=
    twins_extend each pairs rfl
  obtain ⟨ends, -⟩ := twins (trivial : (fun _ _ => True) ledger other)
  exact ends.eq

/-- A layer is absorbed where it is merged again: the build runs the same provisions in the same
contexts and stops at the same failure, so without effects it has the same outcome in whatever state
each of the two is run. Where the first layer is built, the merged one comes to what the newcomers of
the second come to in the context of the first. If they are built, that context is the beginning of
the merged one. What follows in it are the newcomers' tags, in order, each bound to what its provision
built when it was given all that stands before. -/
theorem build_merged (a b c : Layer) :
    (((a.merge b).merge a).merge c).build = ((a.merge b).merge c).build ∧
      ((∀ provision ∈ (a.merge b).merge c, provision.IsPure) → ∀ ledger other : Ledger,
        ((((a.merge b).merge a).merge c).build.run ledger).1 =
          (((a.merge b).merge c).build.run other).1) ∧
      ∀ ledger context after, a.build.run ledger = (.ok context, after) →
        (∀ outcome final, (a.merge b).build.run ledger = (outcome, final) ↔
          Comes context (b.newcomers context) after outcome final) ∧
        ∀ result final, (a.merge b).build.run ledger = (.ok result, final) →
          ∃ made : Context, result = context ++ made ∧
            Table.keys made = (b.newcomers context).tags ∧
            ∀ done provision rest, b.newcomers context = done ++ provision :: rest →
              ∃ before subject left mid next, made = before ++ (provision.tag, subject) :: left ∧
                Table.keys before = tags done ∧
                (provision.build (context ++ before)).run mid = (.ok subject, next) := by
  refine ⟨build_merge_again a b c, fun pure ledger other => ?_, fun ledger context after built => ?_⟩
  · rw [build_merge_again]
    exact outcome_build_of_pure pure ledger other
  rw [run_build_merge b built]
  refine ⟨fun outcome final => comes_iff_runAll.symm, fun result final ran => ?_⟩
  exact (runAll_eq_ok_iff.mp ran).exists_added

/-! ## A clock with an alarm and a bell -/

namespace Clockwork

/-- A part that is put together from all parts before it, of which there have to be as many as its
number says. -/
def part (number : Nat) (name : String) : Provision where
  tag := .custom number name
  label := name
  build given := Build.ofExcept <|
    if given.length < number then .error (.serviceNotFound name)
    else .ok
      { cls := .named name
        object := .constructed number
        role := .plain
        received := Table.values given
        logger := none
        config := none }

theorem isPure_part (number : Nat) (name : String) : (part number name).IsPure :=
  ⟨_, fun _ => rfl⟩

def clock : Layer := [part 0 "clock"]

/-- The alarm comes with the clock. -/
def alarm : Layer := [part 0 "clock", part 1 "alarm"]

/-- The bell comes with the alarm, and the hands are one part too late. -/
def bell : Layer := [part 1 "alarm", part 2 "bell", part 4 "hands"]

/-- The clock is built once, the alarm is added to it, and for want of a part the hands fail with and
without a second clock. -/
theorem build_merged_clockwork : ∃ context,
    (∀ provision ∈ (clock.merge alarm).merge bell, provision.IsPure) ∧
      clock.build.run {} = (.ok context, {}) ∧
      (∃ made : Context, ((clock.merge alarm).build.run {}).1 = .ok (context ++ made) ∧
        Table.keys made = [.custom 1 "alarm"]) ∧
      ((((clock.merge alarm).merge clock).merge bell).build.run { objects := 7 }).1 =
        .error (.construction "hands" "layer provision failed" (some (.serviceNotFound "hands"))) := by
  have pure : ∀ provision ∈ (clock.merge alarm).merge bell, provision.IsPure := by
    simp only [clock, alarm, bell, merge, List.cons_append, List.nil_append, List.forall_mem_cons,
      isPure_part, List.not_mem_nil, false_imp_iff, implies_true, and_true]
  obtain ⟨-, outcomes, going⟩ := build_merged clock alarm bell
  obtain ⟨-, added⟩ := going {} _ {} rfl
  refine ⟨_, pure, rfl, ?_, (outcomes pure _ {}).trans rfl⟩
  obtain ⟨made, result, keys, -⟩ := added _ {} rfl
  exact ⟨made, congrArg Except.ok result, keys.trans (by decide)⟩

end Clockwork

end Layer

end Trellis
