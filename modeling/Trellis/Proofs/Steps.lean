/-!
# Fallible work on a state

How work that may fail and keeps what it wrote before the failure is put together: the second part
goes on where the first one ended, and a failure of the first one is the failure of both. Two works
are compared step by step, each in its own states (`Twins`).
-/

namespace Trellis

namespace Steps

variable {ε σ α β : Type} {work : ExceptT ε (StateM σ) α} {next : α → ExceptT ε (StateM σ) β}
  {start mid final : σ} {a : α} {b : β} {error : ε}

theorem run_bind_of_ok (done : work.run start = (.ok a, mid)) :
    (work >>= next).run start = (next a).run mid := by
  simp only [ExceptT.run, bind, ExceptT.bind, ExceptT.mk, StateT.bind] at done ⊢
  rw [done]
  rfl

theorem run_bind_of_error (failed : work.run start = (.error error, mid)) :
    (work >>= next).run start = (.error error, mid) := by
  simp only [ExceptT.run, bind, ExceptT.bind, ExceptT.mk, StateT.bind] at failed ⊢
  rw [failed]
  rfl

/-- Both parts succeed. -/
theorem run_bind_eq_ok_iff :
    (work >>= next).run start = (.ok b, final) ↔
      ∃ a mid, work.run start = (.ok a, mid) ∧ (next a).run mid = (.ok b, final) := by
  constructor
  · intro ran
    rcases here : work.run start with ⟨fault | a, mid⟩
    · rw [run_bind_of_error here] at ran
      cases ran
    · exact ⟨a, mid, rfl, run_bind_of_ok here ▸ ran⟩
  · rintro ⟨a, mid, done, later⟩
    rw [run_bind_of_ok done, later]

/-! ## Works side by side

Two works are twins if, begun in related states, they end in related states, with the same error or
with related values. The states of one may be quite others than those of the other. -/

section Twins

variable {τ γ δ : Type} {states : σ → τ → Prop} {values : α → γ → Prop} {results : β → δ → Prop}
  {other : ExceptT ε (StateM τ) γ} {again : γ → ExceptT ε (StateM τ) δ}

/-- The same error, or related values. -/
inductive Matches (values : α → γ → Prop) : Except ε α → Except ε γ → Prop
  | error (error : ε) : Matches values (.error error) (.error error)
  | ok {a : α} {c : γ} (related : values a c) : Matches values (.ok a) (.ok c)

theorem Matches.mapError {ε' : Type} {one : Except ε α} {two : Except ε γ}
    (ends : Matches values one two) (change : ε → ε') :
    Matches values (one.mapError change) (two.mapError change) := by
  cases ends with
  | error fault => exact .error (change fault)
  | ok related => exact .ok related

theorem Matches.eq {one two : Except ε α} (ends : Matches Eq one two) : one = two := by
  cases ends with
  | error => rfl
  | ok same => rw [same]

def Twins (states : σ → τ → Prop) (values : α → γ → Prop) (work : ExceptT ε (StateM σ) α)
    (other : ExceptT ε (StateM τ) γ) : Prop :=
  ∀ ⦃start : σ⦄ ⦃begin : τ⦄, states start begin →
    Matches values (work.run start).1 (other.run begin).1 ∧
      states (work.run start).2 (other.run begin).2

theorem Twins.pure {a : α} {c : γ} (related : values a c) :
    Twins states values (pure a : ExceptT ε (StateM σ) α) (pure c) :=
  fun _ _ begun => ⟨.ok related, begun⟩

theorem Twins.throw (error : ε) :
    Twins states values (throw error : ExceptT ε (StateM σ) α) (throw error) :=
  fun _ _ begun => ⟨.error error, begun⟩

theorem Twins.bind (first : Twins states values work other)
    (later : ∀ a c, values a c → Twins states results (next a) (again c)) :
    Twins states results (work >>= next) (other >>= again) := by
  intro start begin begun
  obtain ⟨ends, mids⟩ := first begun
  rcases one : work.run start with ⟨fault | a, mid⟩ <;>
    rcases two : other.run begin with ⟨fault' | c, mid'⟩ <;> rw [one, two] at ends mids
  · -- The failure of one is that of the other.
    cases ends
    rw [run_bind_of_error one, run_bind_of_error two]
    exact ⟨.error fault, mids⟩
  · cases ends
  · cases ends
  · cases ends with
    | ok related =>
      rw [run_bind_of_ok one, run_bind_of_ok two]
      exact later a c related mids

theorem Twins.adapt {ε' : Type} (twins : Twins states values work other) (change : ε → ε') :
    Twins states values (ExceptT.adapt change work) (ExceptT.adapt change other) :=
  fun _ _ begun => ⟨(twins begun).1.mapError change, (twins begun).2⟩

/-- What one work comes to, its twin comes to as well. -/
theorem Twins.exists_run_of_ok {begin : τ} (twins : Twins states values work other)
    (begun : states start begin) (done : work.run start = (.ok a, mid)) :
    ∃ c last, other.run begin = (.ok c, last) ∧ values a c := by
  obtain ⟨ends, -⟩ := twins begun
  rcases ran : other.run begin with ⟨fault | c, last⟩ <;> rw [done, ran] at ends
  · cases ends
  · cases ends with
    | ok related => exact ⟨c, last, rfl, related⟩

theorem Twins.exists_run_of_error {begin : τ} (twins : Twins states values work other)
    (begun : states start begin) (failed : work.run start = (.error error, mid)) :
    ∃ last, other.run begin = (.error error, last) := by
  obtain ⟨ends, -⟩ := twins begun
  rcases ran : other.run begin with ⟨fault | c, last⟩ <;> rw [failed, ran] at ends <;> cases ends
  exact ⟨last, rfl⟩

end Twins

/-! ## Results seen through a function

Two works look alike through a function if, in the same state, they are twins whose results the
function does not tell apart. -/

section Seen

variable {γ : Type} {f : α → γ} {other : ExceptT ε (StateM σ) α}

theorem run_map (f : α → γ) (work : ExceptT ε (StateM σ) α) (start : σ) :
    (f <$> work).run start = ((work.run start).1.map f, (work.run start).2) := by
  show (ExceptT.map f work : StateM σ _) start = _
  simp only [ExceptT.map, ExceptT.mk, ExceptT.run, bind, StateT.bind]
  rcases work start with ⟨fault | a, final⟩ <;> rfl

theorem matches_iff_map_eq {one two : Except ε α} :
    Matches (fun a b => f a = f b) one two ↔ one.map f = two.map f := by
  constructor
  · rintro (_ | same)
    · rfl
    · exact congrArg Except.ok same
  · intro same
    rcases one with fault | a <;> rcases two with fault' | b
    · cases same
      exact .error fault
    · cases same
    · cases same
    · exact .ok (Except.ok.inj same)

theorem twins_iff_map_eq :
    Twins Eq (fun a b => f a = f b) work other ↔ f <$> work = f <$> other := by
  constructor
  · intro twins
    funext start
    show (f <$> work).run start = (f <$> other).run start
    obtain ⟨ends, finals⟩ := twins (rfl : start = start)
    rw [run_map, run_map, matches_iff_map_eq.mp ends, finals]
  · rintro same start _ rfl
    have seen : (f <$> work).run start = (f <$> other).run start := by rw [same]
    rw [run_map, run_map] at seen
    obtain ⟨ends, finals⟩ := Prod.mk.inj seen
    exact ⟨matches_iff_map_eq.mpr ends, finals⟩

/-- What one work comes to, a work that looks alike comes to as well. -/
theorem exists_run_of_map_eq (same : f <$> work = f <$> other)
    (done : work.run start = (.ok a, final)) :
    ∃ b, other.run start = (.ok b, final) ∧ f a = f b := by
  obtain ⟨ends, finals⟩ := twins_iff_map_eq.mpr same (rfl : start = start)
  rw [done] at ends finals
  rcases ran : other.run start with ⟨fault | b, last⟩
  · rw [ran] at ends
    cases ends
  · rw [ran] at ends finals
    cases finals
    cases ends with
    | ok value => exact ⟨b, rfl, value⟩

end Seen

@[simp]
theorem run_pure (a : α) (start : σ) :
    (pure a : ExceptT ε (StateM σ) α).run start = (.ok a, start) := rfl

end Steps

end Trellis
