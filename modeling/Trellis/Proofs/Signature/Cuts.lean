import Trellis.Proofs.Signature.Brackets
/-!
# Where a list is cut

Cutting a list into slots and joining slots with commas undo each other. Whatever its brackets are, a
list is cut at the commas before which its depth is zero and loses nothing else by it. Conversely parts
are found again in the list they are joined to, if each of them, taken alone, has no comma at depth
zero and ends at depth zero. The depth is given here by counting brackets, without a reader.
-/

namespace Trellis.Signature

variable {depth behind : Int} {before other c : Char} {text first second rest : List Char}

/-! ## The depth of a text by itself -/

/-- The brackets that a text opens less those that it closes. Every `>` is taken for a closing bracket,
and those of arrows are given back. -/
def netDepth (text : List Char) : Int :=
  text.countP (· ∈ ['<', '(', '[']) + (text.zip text.tail).count ('-', '>') -
    text.countP (· ∈ ['>', ')', ']'])

/-- No comma of the text is at depth zero. -/
def Uncut (text : List Char) : Prop :=
  ∀ first rest, text = first ++ ',' :: rest → netDepth first ≠ 0

/-- The text has no comma at depth zero and ends at depth zero. -/
structure Closed (text : List Char) : Prop where
  uncut : Uncut text
  level : netDepth text = 0

/-- The same count for a text behind the character `before`, which may begin an arrow. -/
def netDepthBehind (before : Char) (text : List Char) : Int :=
  text.countP (· ∈ ['<', '(', '[']) + ((before :: text).zip text).count ('-', '>') -
    text.countP (· ∈ ['>', ')', ']'])

theorem netDepthBehind_of_ne (noArrow : before ≠ '-') :
    netDepthBehind before text = netDepth text := by
  cases text with
  | nil => rfl
  | cons c rest =>
    have apart : (before, c) ≠ ('-', '>') := fun arrow => noArrow (congrArg Prod.fst arrow)
    simp [netDepthBehind, netDepth, List.count_cons_of_ne apart]

theorem depthStep_eq_count :
    depthStep before c = (if c ∈ ['<', '(', '['] then 1 else 0) +
      (if (before, c) = ('-', '>') then 1 else 0) - (if c ∈ ['>', ')', ']'] then 1 else 0) := by
  by_cases opens : c ∈ ['<', '(', '[']
  · simp only [List.mem_cons, List.not_mem_nil, or_false] at opens
    rcases opens with rfl | rfl | rfl <;> simp [depthStep]
  · by_cases closes : c ∈ ['>', ')', ']']
    · simp only [List.mem_cons, List.not_mem_nil, or_false] at closes
      rcases closes with rfl | rfl | rfl <;> simp [depthStep]
      split <;> simp_all
    · simp_all [depthStep]

theorem netDepthBehind_cons :
    netDepthBehind before (c :: rest) = depthStep before c + netDepthBehind c rest := by
  simp only [netDepthBehind, depthStep_eq_count, List.zip_cons_cons, List.countP_cons,
    List.count_cons, decide_eq_true_eq, beq_iff_eq]
  split <;> split <;> split <;> omega

theorem netDepthBehind_append :
    netDepthBehind before (first ++ second) =
      netDepthBehind before first + netDepthBehind (lastRead before first) second := by
  induction first generalizing before with
  | nil => exact (Int.zero_add _).symm
  | cons c rest ih => rw [List.cons_append, netDepthBehind_cons, netDepthBehind_cons, ih,
      lastRead_cons, Int.add_assoc]

/-- A comma begins no arrow and is no bracket. -/
theorem netDepth_append_comma :
    netDepth (first ++ ',' :: rest) = netDepth first + netDepth rest := by
  have start : '\x00' ≠ '-' := by decide
  have comma : ',' ≠ '-' := by decide
  have step : depthStep (lastRead '\x00' first) ',' = 0 := rfl
  rw [← netDepthBehind_of_ne start, netDepthBehind_append, netDepthBehind_cons, step, Int.zero_add,
    netDepthBehind_of_ne start, netDepthBehind_of_ne comma]

theorem netDepth_intercalate {parts : List (List Char)} (level : ∀ part ∈ parts, netDepth part = 0) :
    netDepth (List.intercalate [','] parts) = 0 := by
  induction parts with
  | nil => rfl
  | cons part others ih =>
    have here := level part List.mem_cons_self
    have there := ih fun part member => level part (List.mem_cons_of_mem _ member)
    cases others with
    | nil => simpa using here
    | cons next others =>
      rw [List.intercalate_cons_cons, List.append_assoc, List.singleton_append,
        netDepth_append_comma, here, there]
      rfl

/-- One character changes the depth by one at most, and only if it is a bracket. -/
theorem natAbs_depthStep_le : (depthStep before c).natAbs ≤ if c ∈ brackets then 1 else 0 := by
  split
  · unfold depthStep
    split_ifs <;> decide
  · rename_i plain
    rw [depthStep_eq_zero plain]
    exact Nat.le_refl 0

theorem natAbs_netDepth_le (text : List Char) :
    (netDepth text).natAbs ≤ text.countP (· ∈ brackets) := by
  suffices bound : ∀ before, (netDepthBehind before text).natAbs ≤ text.countP (· ∈ brackets) by
    have start : '\x00' ≠ '-' := by decide
    exact netDepthBehind_of_ne start ▸ bound '\x00'
  induction text with
  | nil => exact fun _ => Nat.le_refl 0
  | cons c rest ih =>
    intro before
    have step : (depthStep before c).natAbs ≤ _ := natAbs_depthStep_le
    have later := ih c
    have both := Int.natAbs_add_le (depthStep before c) (netDepthBehind c rest)
    rw [netDepthBehind_cons, List.countP_cons]
    simp only [decide_eq_true_eq]
    omega

/-! ## The depth of the reader -/

/-- The reader's depth is the one that is counted, as long as no comma cuts the text. -/
theorem depthBehind?_eq_some_iff :
    depthBehind? depth before text = some behind ↔
      (∀ first rest, text = first ++ ',' :: rest → depth + netDepthBehind before first ≠ 0) ∧
        depth + netDepthBehind before text = behind := by
  induction text generalizing depth before with
  | nil => simp [depthBehind?, netDepthBehind]
  | cons c tail ih =>
    by_cases cut : c = ',' ∧ depth = 0
    · obtain ⟨rfl, rfl⟩ := cut
      refine iff_of_false (by simp [depthBehind?]) fun conditions => ?_
      exact conditions.1 [] tail rfl rfl
    · rw [depthBehind?_cons_of_not_cut cut, ih, netDepthBehind_cons, Int.add_assoc]
      refine and_congr_left fun _ => ⟨fun uncut first rest split => ?_, fun uncut first rest split => ?_⟩
      · cases first with
        | nil =>
          intro zero
          exact cut ⟨(List.cons.inj split).1, by simpa [netDepthBehind] using zero⟩
        | cons d front =>
          obtain ⟨rfl, shape⟩ := List.cons.inj split
          rw [netDepthBehind_cons, ← Int.add_assoc]
          exact uncut front rest shape
      · rw [Int.add_assoc, ← netDepthBehind_cons]
        exact uncut (c :: first) rest (by rw [split, List.cons_append])

theorem depthBehind?_eq_some_zero_iff : depthBehind? 0 '\x00' text = some 0 ↔ Closed text := by
  have start : '\x00' ≠ '-' := by decide
  rw [depthBehind?_eq_some_iff]
  simp only [Int.zero_add, netDepthBehind_of_ne start]
  exact ⟨fun ⟨uncut, level⟩ => ⟨uncut, level⟩, fun closed => ⟨closed.uncut, closed.level⟩⟩

instance : Decidable (Closed text) :=
  decidable_of_iff (depthBehind? 0 '\x00' text = some 0) depthBehind?_eq_some_zero_iff

/-! ## Cutting and joining -/

theorem slotsFrom_cut : slotsFrom 0 before (',' :: rest) = [] :: slotsFrom 0 ',' rest := by
  rw [slotsFrom, if_pos ⟨rfl, rfl⟩]

theorem intercalate_slotsFrom : List.intercalate [','] (slotsFrom depth before text) = text := by
  induction text generalizing depth before with
  | nil => simp [slotsFrom]
  | cons c rest ih =>
    by_cases cut : c = ',' ∧ depth = 0
    · obtain ⟨rfl, rfl⟩ := cut
      rw [slotsFrom_cut, List.intercalate_cons_of_ne_nil slotsFrom_ne_nil, ih]
      rfl
    · rw [slotsFrom_cons_of_not_cut cut]
      have later : List.intercalate [','] (slotsFrom (depth + depthStep before c) c rest) = rest := ih
      cases shape : slotsFrom (depth + depthStep before c) c rest with
      | nil => exact absurd shape slotsFrom_ne_nil
      | cons slot slots =>
        rw [shape] at later
        rw [List.modifyHead_cons]
        cases slots with
        | nil => simpa using later
        | cons next slots => simpa [List.intercalate_cons_cons] using later

theorem slotsFrom_congr (same : before = '-' ↔ other = '-') :
    slotsFrom depth before text = slotsFrom depth other text := by
  cases text with
  | nil => rfl
  | cons c rest => rw [slotsFrom, slotsFrom, depthStep_congr same]

/-- A comma at depth zero parts the slots before it from those behind it. -/
theorem slotsFrom_append_comma (level : depth + netDepthBehind before first = 0) :
    slotsFrom depth before (first ++ ',' :: rest) =
      slotsFrom depth before first ++ slotsFrom 0 ',' rest := by
  induction first generalizing depth before with
  | nil =>
    obtain rfl : depth = 0 := by simpa [netDepthBehind] using level
    exact slotsFrom_cut
  | cons c tail ih =>
    rw [netDepthBehind_cons, ← Int.add_assoc] at level
    rw [List.cons_append]
    by_cases cut : c = ',' ∧ depth = 0
    · obtain ⟨rfl, rfl⟩ := cut
      have step : depthStep before ',' = 0 := rfl
      rw [step, Int.add_zero] at level
      rw [slotsFrom_cut, slotsFrom_cut, ih level, List.cons_append]
    · rw [slotsFrom_cons_of_not_cut cut, slotsFrom_cons_of_not_cut cut, ih level]
      cases shape : slotsFrom (depth + depthStep before c) c tail with
      | nil => exact absurd shape slotsFrom_ne_nil
      | cons slot slots => rfl

theorem intercalate_slotChars (list : List Char) :
    List.intercalate [','] (slotChars list) = list :=
  intercalate_slotsFrom

/-- Every slot but the last is closed. -/
theorem closed_of_mem_slotChars {list : List Char} {slots : List (List Char)} {last : List Char}
    (cut : slotChars list = slots ++ [last]) : ∀ slot ∈ slots, Closed slot := by
  have again : slotChars (List.intercalate [','] (slots ++ [last])) = slots ++ [last] := by
    rw [← cut, intercalate_slotChars]
  intro slot member
  exact depthBehind?_eq_some_zero_iff.mp (((slotChars_intercalate_iff slots last).mp again).1 slot member)

theorem slotChars_append_comma_iff :
    slotChars (first ++ ',' :: rest) = slotChars first ++ slotChars rest ↔ netDepth first = 0 := by
  have start : '\x00' ≠ '-' := by decide
  constructor
  · intro parted
    -- The slots before the comma are not the last, so each of them ends at depth zero.
    obtain ⟨more, last, behind⟩ := (List.eq_nil_or_concat (slotChars rest)).resolve_left
      slotsFrom_ne_nil
    rw [behind, List.concat_eq_append, ← List.append_assoc] at parted
    have closed := closed_of_mem_slotChars parted
    rw [← intercalate_slotChars first]
    exact netDepth_intercalate fun slot member =>
      (closed slot (List.mem_append_left _ member)).level
  · intro level
    rw [← netDepthBehind_of_ne start, ← Int.zero_add (netDepthBehind _ _)] at level
    rw [slotChars, slotsFrom_append_comma level]
    exact congrArg _ (slotsFrom_congr (iff_of_false (by decide) start))

theorem slots_append_comma_iff {front back : String} :
    slots (front ++ "," ++ back) = slots front ++ slots back ↔ netDepth front.toList = 0 := by
  have injective : Function.Injective String.ofList := fun _ _ => String.ofList_injective
  have split : (front ++ "," ++ back).toList = front.toList ++ ',' :: back.toList := by simp
  rw [slots, slots, slots, ← List.map_append, (List.map_injective_iff.mpr injective).eq_iff, split]
  exact slotChars_append_comma_iff

theorem intercalate_slots (list : String) : ",".intercalate (slots list) = list := by
  have chars : (slots list).map String.toList = slotChars list.toList := by
    simp [slots, Function.comp_def]
  rw [← String.toList_inj, String.toList_intercalate, chars]
  exact intercalate_slotChars list.toList

theorem slots_of_closed {parts : List String} (nonempty : parts ≠ [])
    (closed : ∀ part ∈ parts, Closed part.toList) : slots (",".intercalate parts) = parts := by
  have level : ∀ chars ∈ parts.map String.toList, depthBehind? 0 '\x00' chars = some 0 := by
    intro chars member
    obtain ⟨part, listed, rfl⟩ := List.mem_map.mp member
    exact depthBehind?_eq_some_zero_iff.mpr (closed part listed)
  have cut := slotChars_of_level (by simpa using nonempty) level
  have joined : (",".intercalate parts).toList = List.intercalate [','] (parts.map String.toList) :=
    String.toList_intercalate
  rw [slots, joined, cut, List.map_map]
  simp [Function.comp_def]

/-- Joining the slots of a list with commas gives the list back, whatever its brackets are, and the
slots of parts joined with commas are the parts, if each of them is closed. Of any list exactly those
commas part the slots before them from the slots behind them before which the depth is zero. The depth
never exceeds the number of brackets, in either direction, so a counter of 32 bits holds it for fewer
than 2 ^ 31 brackets. -/
theorem slots_intercalate (list : String) (parts : List String) :
    ",".intercalate (slots list) = list ∧
      (parts ≠ [] → (∀ part ∈ parts, Closed part.toList) → slots (",".intercalate parts) = parts) ∧
      (∀ front back, list = front ++ "," ++ back →
        (slots list = slots front ++ slots back ↔ netDepth front.toList = 0)) ∧
      ∀ first, first <+: list.toList →
        (netDepth first).natAbs ≤ list.toList.countP (· ∈ brackets) := by
  refine ⟨intercalate_slots list, slots_of_closed, fun front back split => ?_, fun first start => ?_⟩
  · rw [split]
    exact slots_append_comma_iff
  · exact Nat.le_trans (natAbs_netDepth_le first) start.countP_le

/-- Parts with commas in brackets, with an arrow and without any text. -/
theorem slots_intercalate_signature :
    let parts := ["map: Map<Key, Value>", " run: fn(Key, Value) -> Flag", ""]
    parts ≠ [] ∧ (∀ part ∈ parts, Closed part.toList) ∧
      slots "map: Map<Key, Value>, run: fn(Key, Value) -> Flag," = parts := by
  intro parts
  have nonempty : parts ≠ [] := List.cons_ne_nil _ _
  have closed : ∀ part ∈ parts, Closed part.toList := by decide +kernel
  obtain ⟨-, found, -⟩ := slots_intercalate "" parts
  exact ⟨nonempty, closed, found nonempty closed⟩

end Trellis.Signature
