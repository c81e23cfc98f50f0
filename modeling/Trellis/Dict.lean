/-!
# Dictionaries in key order

A dictionary is a list of entries in ascending order of their keys, one entry a key. Writing keeps
the order and replaces the value of a key that is there, so the list is the dictionary's iteration.
-/

namespace Trellis

/-- Entries in ascending order of their keys. -/
abbrev Dict (α : Type) := List (String × α)

namespace Dict

variable {α : Type}

/-- The dictionary with `value` under `key`, in place of what stood there. -/
def set (key : String) (value : α) : Dict α → Dict α
  | [] => [(key, value)]
  | (other, old) :: rest =>
    if key = other then (key, value) :: rest
    else if key < other then (key, value) :: (other, old) :: rest
    else (other, old) :: set key value rest

/-- The entries written one after the other: of two with the same key the later one stays. -/
def ofList (entries : List (String × α)) : Dict α :=
  entries.foldl (fun dict (key, value) => dict.set key value) []

/-- The value under `key`. -/
def get? (dict : Dict α) (key : String) : Option α :=
  dict.lookup key

def keys (dict : Dict α) : List String :=
  dict.map (·.1)

@[simp]
theorem get?_nil (key : String) : get? ([] : Dict α) key = none := rfl

theorem get?_cons (dict : Dict α) (key other : String) (value : α) :
    get? ((key, value) :: dict) other = if other = key then some value else dict.get? other := by
  rw [get?, List.lookup_cons]
  split
  next same => rw [if_pos (beq_iff_eq.mp same)]
  next apart => rw [if_neg (beq_eq_false_iff_ne.mp apart), get?]

theorem get?_eq_none_iff {dict : Dict α} {key : String} : dict.get? key = none ↔ key ∉ dict.keys := by
  induction dict with
  | nil => simp [keys]
  | cons entry rest ih =>
    rw [get?_cons, keys, List.map_cons, List.mem_cons, not_or, ← keys, ← ih]
    by_cases same : key = entry.1
    · simp [same]
    · simp [same]

theorem mem_of_get? {dict : Dict α} {key : String} {value : α} (found : dict.get? key = some value) :
    (key, value) ∈ dict := by
  obtain ⟨before, after, rfl, -⟩ := List.lookup_eq_some_iff.mp found
  simp

theorem get?_eq_some_iff_mem {dict : Dict α} (distinct : dict.keys.Nodup) {key : String} {value : α} :
    dict.get? key = some value ↔ (key, value) ∈ dict := by
  refine ⟨mem_of_get?, fun member => ?_⟩
  induction dict with
  | nil => cases member
  | cons entry rest ih =>
    obtain ⟨fresh, distinct⟩ := List.nodup_cons.mp distinct
    rw [get?_cons]
    rcases List.mem_cons.mp member with rfl | later
    · exact if_pos rfl
    · -- The key stands further down, so the first entry has another one.
      have apart : key ≠ entry.1 := fun same => fresh (List.mem_map.mpr ⟨_, later, same⟩)
      rw [if_neg apart]
      exact ih distinct later

theorem get?_set_self (dict : Dict α) (key : String) (value : α) :
    (dict.set key value).get? key = some value := by
  induction dict with
  | nil => simp [set, get?]
  | cons entry rest ih =>
    obtain ⟨other, old⟩ := entry
    unfold set
    split
    · simp [get?]
    · split
      · simp [get?]
      · rename_i differs _
        have : (key == other) = false := by simpa using differs
        simpa [get?, List.lookup_cons, this] using ih

theorem get?_set_of_ne (dict : Dict α) {key other : String} (value : α) (differs : other ≠ key) :
    (dict.set key value).get? other = dict.get? other := by
  have apart : (other == key) = false := by simpa using differs
  induction dict with
  | nil => simp [set, get?, List.lookup_cons, apart]
  | cons entry rest ih =>
    obtain ⟨known, old⟩ := entry
    unfold set
    split
    · rename_i same
      subst same
      simp [get?, List.lookup_cons, apart]
    · split
      · simp [get?, List.lookup_cons, apart]
      · simp only [get?, List.lookup_cons] at ih ⊢
        split <;> simp_all

/-! ## Keys are in order, each once -/

theorem mem_keys_set {dict : Dict α} {key other : String} {value : α} :
    other ∈ (dict.set key value).keys ↔ other = key ∨ other ∈ dict.keys := by
  induction dict with
  | nil => simp [set, keys]
  | cons entry rest ih =>
    obtain ⟨known, old⟩ := entry
    unfold set
    split
    · rename_i same
      simp [keys, same]
    · split
      · simp [keys]
      · simp only [keys, List.map_cons, List.mem_cons] at ih ⊢
        rw [ih]
        exact or_left_comm

/-- Writing keeps the keys in order. -/
theorem pairwise_keys_set {dict : Dict α} (ordered : dict.keys.Pairwise (· < ·)) (key : String)
    (value : α) : (dict.set key value).keys.Pairwise (· < ·) := by
  induction dict with
  | nil => exact List.pairwise_singleton _ key
  | cons entry rest ih =>
    obtain ⟨known, old⟩ := entry
    obtain ⟨first, later⟩ := List.pairwise_cons.mp ordered
    unfold set
    split
    · rename_i same
      subst same
      exact ordered
    · rename_i differs
      split
      · rename_i before
        refine List.pairwise_cons.mpr ⟨fun other member => ?_, ordered⟩
        rcases List.mem_cons.mp member with rfl | behind
        · exact before
        · exact String.lt_trans before (first other behind)
      · -- The new key comes behind the first one, which stays the least.
        rename_i after
        refine List.pairwise_cons.mpr ⟨fun other member => ?_, ih later⟩
        rcases mem_keys_set.mp member with rfl | known
        · refine Decidable.byContradiction fun ahead => differs ?_
          exact String.le_antisymm (String.not_lt.mp ahead) (String.not_lt.mp after)
        · exact first other known

theorem mem_keys_ofList {entries : List (String × α)} {key : String} :
    key ∈ (ofList entries).keys ↔ key ∈ entries.map (·.1) := by
  suffices general : ∀ dict : Dict α,
      key ∈ (entries.foldl (fun dict (key, value) => dict.set key value) dict).keys ↔
        key ∈ entries.map (·.1) ∨ key ∈ dict.keys by
    simpa only [ofList, keys, List.map_nil, List.not_mem_nil, or_false] using general []
  induction entries with
  | nil => simp
  | cons entry rest ih =>
    intro dict
    rw [List.foldl_cons, ih, mem_keys_set, List.map_cons, List.mem_cons]
    rw [or_left_comm, or_assoc]

/-- A key behind all others is written at the end. -/
theorem set_of_forall_lt {dict : Dict α} {key : String} (value : α)
    (behind : ∀ other ∈ dict.keys, other < key) : dict.set key value = dict ++ [(key, value)] := by
  induction dict with
  | nil => rfl
  | cons entry rest ih =>
    obtain ⟨first, old⟩ := entry
    obtain ⟨before, later⟩ := List.forall_mem_cons.mp behind
    have apart : key ≠ first := fun same => String.lt_irrefl key (same ▸ before)
    have after : ¬key < first := fun less => String.lt_asymm before less
    rw [set, if_neg apart, if_neg after, ih later, List.cons_append]

/-- Entries in order are a dictionary already. -/
theorem ofList_of_pairwise {entries : List (String × α)}
    (ordered : (keys entries).Pairwise (· < ·)) : ofList entries = entries := by
  suffices general : ∀ dict : Dict α, (keys (dict ++ entries)).Pairwise (· < ·) →
      entries.foldl (fun dict (key, value) => dict.set key value) dict = dict ++ entries from
    general [] ordered
  clear ordered
  induction entries with
  | nil => simp
  | cons entry rest ih =>
    obtain ⟨key, value⟩ := entry
    intro dict ordered
    have behind : ∀ other ∈ dict.keys, other < key := fun other member => by
      rw [keys, List.map_append] at ordered
      exact (List.pairwise_append.mp ordered).2.2 other member key (by simp)
    have split : dict ++ (key, value) :: rest = dict ++ [(key, value)] ++ rest := by simp
    have written : dict.set key value = dict ++ [(key, value)] := set_of_forall_lt value behind
    rw [List.foldl_cons, split, ← written]
    exact ih (dict.set key value) (by rw [written, ← split]; exact ordered)

theorem mem_of_mem_set {dict : Dict α} {key : String} {value : α} {entry : String × α}
    (member : entry ∈ dict.set key value) : entry = (key, value) ∨ entry ∈ dict := by
  induction dict with
  | nil => exact .inl (List.mem_singleton.mp member)
  | cons first rest ih =>
    unfold set at member
    split at member
    · exact (List.mem_cons.mp member).imp_right (List.mem_cons_of_mem _)
    · split at member
      · exact List.mem_cons.mp member
      · rcases List.mem_cons.mp member with rfl | later
        · exact .inr List.mem_cons_self
        · exact (ih later).imp_right (List.mem_cons_of_mem _)

/-- A dictionary has no other entries than those it is made of. -/
theorem mem_of_mem_ofList {entries : List (String × α)} {entry : String × α}
    (member : entry ∈ ofList entries) : entry ∈ entries := by
  suffices general : ∀ dict : Dict α,
      entry ∈ entries.foldl (fun dict (key, value) => dict.set key value) dict →
        entry ∈ entries ∨ entry ∈ dict from
    (general [] member).resolve_right (by simp)
  clear member
  induction entries with
  | nil => exact fun _ member => .inr member
  | cons first rest ih =>
    intro dict member
    rcases ih (dict.set first.1 first.2) member with later | before
    · exact .inl (List.mem_cons_of_mem _ later)
    · rcases mem_of_mem_set before with rfl | old
      · exact .inl List.mem_cons_self
      · exact .inr old

theorem pairwise_keys_ofList (entries : List (String × α)) :
    (ofList entries).keys.Pairwise (· < ·) := by
  suffices general : ∀ dict : Dict α, dict.keys.Pairwise (· < ·) →
      (entries.foldl (fun dict (key, value) => dict.set key value) dict).keys.Pairwise (· < ·) from
    general [] List.Pairwise.nil
  induction entries with
  | nil => exact fun _ ordered => ordered
  | cons entry rest ih => exact fun dict ordered => ih _ (pairwise_keys_set ordered _ _)

end Dict

end Trellis
