/-!
# Tables in order of first writing

A table is a list of entries with one entry a key. Writing under a known key replaces the value in
its place, writing under a new key appends, so the list is the order in which keys were first
written.
-/

namespace Trellis

/-- Entries in the order in which their keys were first written. -/
abbrev Table (κ α : Type) := List (κ × α)

namespace Table

variable {κ α : Type} [DecidableEq κ]

/-- The value under `key`. -/
def get? : Table κ α → κ → Option α
  | [], _ => none
  | (known, value) :: rest, key => if known = key then some value else get? rest key

/-- The table with `value` under `key`. -/
def put : Table κ α → κ → α → Table κ α
  | [], key, value => [(key, value)]
  | (known, old) :: rest, key, value =>
    if known = key then (known, value) :: rest else (known, old) :: put rest key value

/-- Whether something stands under `key`. -/
def has (table : Table κ α) (key : κ) : Bool :=
  (table.get? key).isSome

def keys (table : Table κ α) : List κ :=
  table.map (·.1)

def values (table : Table κ α) : List α :=
  table.map (·.2)

@[simp]
theorem get?_nil (key : κ) : get? ([] : Table κ α) key = none := rfl

@[simp]
theorem get?_put_self (table : Table κ α) (key : κ) (value : α) :
    (table.put key value).get? key = some value := by
  induction table with
  | nil => simp [put, get?]
  | cons entry rest ih =>
    obtain ⟨known, old⟩ := entry
    by_cases same : known = key <;> simp [put, get?, same, ih]

theorem get?_put_of_ne (table : Table κ α) {key other : κ} (value : α) (differs : other ≠ key) :
    (table.put key value).get? other = table.get? other := by
  induction table with
  | nil => simp [put, get?, Ne.symm differs]
  | cons entry rest ih =>
    obtain ⟨known, old⟩ := entry
    by_cases same : known = key
    · subst same
      simp [put, get?, Ne.symm differs]
    · by_cases here : known = other
      · subst here
        simp [put, get?, same]
      · simp [put, get?, same, here, ih]

/-- What is found after writing was written there or stood there before. -/
theorem get?_put_eq_some {table : Table κ α} {key other : κ} {value found : α}
    (stands : (table.put key value).get? other = some found) :
    (other = key ∧ found = value) ∨ table.get? other = some found := by
  by_cases same : other = key
  · rw [same, get?_put_self] at stands
    exact .inl ⟨same, (Option.some.inj stands).symm⟩
  · rw [get?_put_of_ne table value same] at stands
    exact .inr stands

theorem mem_keys_of_get?_eq_some {table : Table κ α} {key : κ} {value : α}
    (found : table.get? key = some value) : key ∈ table.keys := by
  induction table with
  | nil => simp at found
  | cons entry rest ih =>
    obtain ⟨known, old⟩ := entry
    by_cases same : known = key
    · simp [keys, same]
    · simp only [get?, same, if_false] at found
      exact List.mem_cons_of_mem _ (ih found)

theorem mem_values_of_get?_eq_some {table : Table κ α} {key : κ} {value : α}
    (found : table.get? key = some value) : value ∈ table.values := by
  induction table with
  | nil => simp at found
  | cons entry rest ih =>
    obtain ⟨known, old⟩ := entry
    by_cases same : known = key
    · simp only [get?, same, if_true, Option.some.injEq] at found
      simp [values, found]
    · simp only [get?, same, if_false] at found
      exact List.mem_cons_of_mem _ (ih found)

theorem get?_append (table more : Table κ α) (key : κ) :
    get? (table ++ more) key = (table.get? key).or (more.get? key) := by
  induction table with
  | nil => rfl
  | cons entry rest ih =>
    obtain ⟨known, value⟩ := entry
    by_cases same : known = key
    · simp [get?, same]
    · simpa [get?, same] using ih

theorem get?_eq_none_iff {table : Table κ α} {key : κ} :
    table.get? key = none ↔ key ∉ table.keys := by
  induction table with
  | nil => simp [keys]
  | cons entry rest ih =>
    obtain ⟨known, value⟩ := entry
    by_cases same : known = key
    · simp [get?, keys, same]
    · simpa [get?, keys, same, Ne.symm same] using ih

theorem has_eq_true_iff {table : Table κ α} {key : κ} : table.has key = true ↔ key ∈ table.keys := by
  rw [has, Option.isSome_iff_ne_none, ne_eq, get?_eq_none_iff, Classical.not_not]

/-- A new key comes last. -/
theorem put_of_get?_eq_none {table : Table κ α} {key : κ} (value : α)
    (absent : table.get? key = none) : table.put key value = table ++ [(key, value)] := by
  induction table with
  | nil => rfl
  | cons entry rest ih =>
    obtain ⟨known, old⟩ := entry
    by_cases same : known = key
    · simp [get?, same] at absent
    · simp only [get?, same, if_false] at absent
      simp [put, same, ih absent]

end Table

end Trellis
