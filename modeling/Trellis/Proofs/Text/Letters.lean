import Mathlib.Data.List.Basic
import Trellis.Text.Uppercase
/-!
# Letters in upper case

What the upper case of a character is made of is upper case itself, and an underscore is the upper case
of nothing else. Both are read off the tables: the upper case of a run is a run again, and its letters
are neither in a run nor in the list of letters with an upper case of several characters.
-/

namespace Trellis.Text

variable {c d : Char} {m n : Nat} {letters : List Nat}

/-- A character that is its own upper case and not an underscore. -/
structure Capital (c : Char) : Prop where
  own : uppercase c = [c]
  other : c ≠ '_'

instance (c : Char) : Decidable (Capital c) :=
  decidable_of_iff (uppercase c = [c] ∧ c ≠ '_') ⟨fun ⟨own, other⟩ => ⟨own, other⟩,
    fun capital => ⟨capital.own, capital.other⟩⟩

theorem capital_of_ascii : ∀ n < 128, n ≠ '_'.toNat → Capital (Char.ofNat n).toUpper := by
  decide +kernel

/-! ## The tables -/

theorem capital_of_sequence : ∀ entry ∈ uppercaseSequences,
    entry.2 ≠ [] ∧ ∀ n ∈ entry.2, Capital (Char.ofNat n) := by
  decide +kernel

/-- Whether a letter of the second run can be the upper case of one of the first: the code points meet,
and not only because both runs leave out every other one. -/
def runsMeet (run other : Nat × Nat × Nat × Nat) : Bool :=
  -- The kernel computes `Nat.ble` and `Nat.beq` by itself, and there are many pairs of runs.
  Nat.ble run.2.2.2 other.2.1 && Nat.ble other.1 (run.2.2.2 + (run.2.1 - run.1)) &&
    !(Nat.beq other.2.2.1 2 && (Nat.beq run.2.1 run.1 || Nat.beq run.2.2.1 2) &&
      !Nat.beq (run.2.2.2 % 2) (other.1 % 2))

theorem runs_apart :
    (uppercaseRuns.all fun run => uppercaseRuns.all fun other => !runsMeet run other) = true := by
  decide +kernel

theorem runs_apart_sequences :
    (uppercaseRuns.all fun run => uppercaseSequences.all fun entry =>
      !(Nat.ble run.2.2.2 entry.1 && Nat.ble entry.1 (run.2.2.2 + (run.2.1 - run.1)))) = true := by
  decide +kernel

/-- Two letters beyond ASCII have an upper case within. -/
theorem runs_beyond_ascii : ∀ run ∈ uppercaseRuns,
    128 ≤ run.2.2.2 ∨ (run.2.1 = run.1 ∧ Capital (Char.ofNat run.2.2.2)) := by
  decide +kernel

/-! ## Upper case by runs -/

theorem exists_run_of_uppercaseOfRun (found : uppercaseOfRun m = some n) :
    ∃ run ∈ uppercaseRuns, ∃ distance ≤ run.2.1 - run.1,
      distance % run.2.2.1 = 0 ∧ n = run.2.2.2 + distance := by
  obtain ⟨run, hit, upper⟩ := Option.map_eq_some_iff.mp found
  have inside := List.find?_some hit
  simp only [Bool.and_eq_true, decide_eq_true_eq, beq_iff_eq] at inside
  obtain ⟨⟨first, last⟩, step⟩ := inside
  exact ⟨run, List.mem_of_find?_eq_some hit, m - run.1, Nat.sub_le_sub_right last _, step, upper.symm⟩

theorem uppercaseOfRun_eq_none
    (outside : ∀ run ∈ uppercaseRuns, run.1 ≤ n → n ≤ run.2.1 → (n - run.1) % run.2.2.1 ≠ 0) :
    uppercaseOfRun n = none := by
  refine Option.map_eq_none_iff.mpr (List.find?_eq_none.mpr fun run listed inside => ?_)
  simp only [Bool.and_eq_true, decide_eq_true_eq, beq_iff_eq] at inside
  exact outside run listed inside.1.1 inside.1.2 inside.2

/-- The upper case of a letter of a run is in no run. -/
theorem uppercaseOfRun_of_upper {run : Nat × Nat × Nat × Nat} (listed : run ∈ uppercaseRuns)
    {distance : Nat} (within : distance ≤ run.2.1 - run.1) (step : distance % run.2.2.1 = 0) :
    uppercaseOfRun (run.2.2.2 + distance) = none := by
  refine uppercaseOfRun_eq_none fun other listed' first last divides => ?_
  have apart := List.all_eq_true.mp (List.all_eq_true.mp runs_apart run listed) other listed'
  simp only [runsMeet, Bool.not_eq_true', Bool.and_eq_true, Bool.or_eq_true, Nat.ble_eq,
    Nat.beq_eq, Bool.eq_false_iff, ne_eq] at apart
  refine apart ⟨⟨by omega, by omega⟩, ?_⟩
  rintro ⟨⟨even, single⟩, parity⟩
  rw [even] at divides
  rcases single with single | even'
  · omega
  · rw [even'] at step
    omega

/-- The upper case of a letter of a run has no upper case of several letters. -/
theorem lookup_of_upper {run : Nat × Nat × Nat × Nat} (listed : run ∈ uppercaseRuns)
    {distance : Nat} (within : distance ≤ run.2.1 - run.1) :
    uppercaseSequences.lookup (run.2.2.2 + distance) = none := by
  refine List.lookup_eq_none_iff.mpr fun entry listed' => ?_
  have apart := List.all_eq_true.mp (List.all_eq_true.mp runs_apart_sequences run listed) entry listed'
  simp only [Bool.not_eq_true', Bool.and_eq_true, Nat.ble_eq, Bool.eq_false_iff, ne_eq] at apart
  rw [bne_iff_ne]
  intro same
  exact apart ⟨by omega, by omega⟩

theorem capital_of_upper {run : Nat × Nat × Nat × Nat} (listed : run ∈ uppercaseRuns)
    {distance : Nat} (within : distance ≤ run.2.1 - run.1) (step : distance % run.2.2.1 = 0) :
    Capital (Char.ofNat (run.2.2.2 + distance)) := by
  rcases runs_beyond_ascii run listed with beyond | ⟨single, capital⟩
  · by_cases valid : (run.2.2.2 + distance).isValidChar
    · have code : (Char.ofNat (run.2.2.2 + distance)).toNat = run.2.2.2 + distance := by
        rw [Char.ofNat, dif_pos valid]
        rfl
      constructor
      · rw [uppercase, code, if_neg (by omega), lookup_of_upper listed within,
          uppercaseOfRun_of_upper listed within step]
      · intro same
        rw [same] at code
        have underscore : '_'.toNat = 95 := rfl
        omega
    · rw [Char.ofNat, dif_neg valid]
      exact (by decide +kernel : Capital (Char.ofNat 0))
  · have here : distance = 0 := by omega
    rwa [here, Nat.add_zero]

/-! ## Upper case -/

/-- The four ways a character has an upper case: within ASCII, by the list, by a run and not at all. -/
theorem uppercase_cases (c : Char) :
    c.toNat < 128 ∧ uppercase c = [c.toUpper] ∨
      (∃ entry ∈ uppercaseSequences, uppercase c = entry.2.map Char.ofNat) ∨
      (∃ n, uppercaseOfRun c.toNat = some n ∧ uppercase c = [Char.ofNat n]) ∨
      uppercase c = [c] := by
  unfold uppercase
  split
  · rename_i ascii
    exact .inl ⟨ascii, rfl⟩
  · right
    split
    · rename_i letters found
      obtain ⟨before, after, table, -⟩ := List.lookup_eq_some_iff.mp found
      exact .inl ⟨(c.toNat, letters), by simp [table], rfl⟩
    · right
      split
      · rename_i n found
        exact .inl ⟨n, found, rfl⟩
      · exact .inr rfl

theorem uppercase_ne_nil (c : Char) : uppercase c ≠ [] := by
  rcases uppercase_cases c with ⟨-, whole⟩ | ⟨entry, listed, whole⟩ | ⟨n, -, whole⟩ | whole
  · rw [whole]
    exact List.cons_ne_nil _ _
  · rw [whole]
    simpa using (capital_of_sequence entry listed).1
  · rw [whole]
    exact List.cons_ne_nil _ _
  · rw [whole]
    exact List.cons_ne_nil _ _

/-- The upper case of a character is made of characters that are their own upper case. -/
theorem capital_of_mem_uppercase (other : c ≠ '_') (member : d ∈ uppercase c) : Capital d := by
  rcases uppercase_cases c with ⟨ascii, whole⟩ | ⟨entry, listed, whole⟩ | ⟨n, found, whole⟩ | whole
  · rw [whole, List.mem_singleton] at member
    have capital := capital_of_ascii c.toNat ascii fun same => other (Char.toNat_inj.mp same)
    rwa [Char.ofNat_toNat, ← member] at capital
  · rw [whole] at member
    obtain ⟨n, letter, rfl⟩ := List.mem_map.mp member
    exact (capital_of_sequence entry listed).2 n letter
  · rw [whole, List.mem_singleton] at member
    obtain ⟨run, listed, distance, within, step, rfl⟩ := exists_run_of_uppercaseOfRun found
    exact member ▸ capital_of_upper listed within step
  · rw [whole, List.mem_singleton] at member
    subst member
    exact ⟨whole, other⟩

end Trellis.Text
