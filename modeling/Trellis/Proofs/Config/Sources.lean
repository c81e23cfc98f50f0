import Mathlib.Data.List.Induction
import Trellis.Proofs.Config.Tree
/-!
# Sources keep their keys in order

Whatever a source is made from, every table in it has its keys in order, each once: the tables of a TOML
document are sorted when they are read, a variable makes tables of one key each, and a dictionary in the
text of a variable is sorted like any other. So sources can be laid over each other key by key.
-/

namespace Trellis

open Json

/-! ## Values -/

theorem Json.ordered_ofMembers {members : List (String × Json)}
    (values : ∀ member ∈ members, member.2.Ordered) : (Json.ofMembers members).Ordered :=
  ordered_object (Dict.pairwise_keys_ofList members) fun _ _ found =>
    values _ (Dict.mem_of_mem_ofList (Dict.mem_of_get? found))

theorem Json.ordered_singleton {key : String} {value : Json} (inner : value.Ordered) :
    (Json.object [(key, value)]).Ordered :=
  @ordered_ofMembers [(key, value)] (by simpa using inner)

theorem Json.ordered_nest {value : Json} (inner : value.Ordered) (path : List String) :
    (Json.nest path value).Ordered := by
  induction path with
  | nil => exact inner
  | cons key path ih => exact ordered_singleton ih

theorem Json.ordered_sorted (value : Json) : value.sorted.Ordered := by
  induction value using Json.nested with
  | null | bool | number | string | array => exact ordered_of_isTable_false rfl
  | object members ih =>
    refine ordered_ofMembers ?_
    rw [sortedMembers_eq_map]
    exact List.forall_mem_map.mpr ih

mutual

theorem Toml.Value.ordered_toJson : (value : Value) → value.toJson.Ordered
  | .table entries => ordered_ofMembers (ordered_entriesToJson entries)
  | .datetime _ => ordered_singleton (ordered_of_isTable_false rfl)
  | .string _ | .integer _ | .float _ | .boolean _ | .array _ => ordered_of_isTable_false rfl

theorem Toml.Value.ordered_entriesToJson :
    (entries : List (String × Value)) → ∀ member ∈ entriesToJson entries, member.2.Ordered
  | [] => by simp [entriesToJson]
  | (key, value) :: entries => by
    rw [entriesToJson, List.forall_mem_cons]
    exact ⟨ordered_toJson value, ordered_entriesToJson entries⟩

end

theorem Json.Ordered.carried? {value carried : Json} (ordered : value.Ordered)
    (made : value.carried? = some carried) : carried.Ordered := by
  induction value using Json.nested generalizing carried with
  | null | bool | number | string => cases made; exact ordered
  | array =>
    obtain ⟨items, -, rfl⟩ := Option.map_eq_some_iff.mp made
    exact ordered_of_isTable_false rfl
  | object members ih =>
    obtain ⟨inside, all, -, rfl⟩ := carried?_object.mp made
    have distinct : (Dict.keys members).Nodup := ordered.keys.imp fun less => String.ne_of_lt less
    have values : ∀ member ∈ inside, member.2.Ordered := fun member known => by
      obtain ⟨value, origin, same⟩ := Source.exists_of_mem_carriedMembers? all member known
      exact ih _ origin (ordered.field ((Dict.get?_eq_some_iff_mem distinct).mpr origin)) same
    cases carrier : Dict.get? inside carrierKey with
    | none =>
      exact ordered_object (Source.keys_carriedMembers? all ▸ ordered.keys) fun _ _ found =>
        values _ (Dict.mem_of_get? found)
    | some value => exact values _ (Dict.mem_of_get? carrier)

/-! ## Values of variables -/

namespace VariableValue

variable {α : Type} {P : α → Prop} {close : Char} {readItem : Reader α} {steps depth : Nat}
  {text rest : List Char} {items : List α}

theorem forall_mem_of_readItems
    (each : ∀ text item rest, readItem text = some (item, rest) → P item)
    (read : readItems close readItem steps text = some (items, rest)) : ∀ item ∈ items, P item := by
  induction steps generalizing text items rest with
  | zero => cases read
  | succ steps ih =>
    rw [readItems] at read
    split at read
    · cases read; simp
    · obtain ⟨⟨item, behind⟩, first, read⟩ := Option.bind_eq_some_iff.mp read
      simp only at read
      split at read
      · obtain ⟨⟨others, last⟩, later, read⟩ := Option.bind_eq_some_iff.mp read
        cases read
        exact List.forall_mem_cons.mpr ⟨each _ _ _ first, ih later⟩
      · obtain ⟨last, -, read⟩ := Option.bind_eq_some_iff.mp read
        cases read
        exact List.forall_mem_cons.mpr ⟨each _ _ _ first, by simp⟩

theorem ordered_ofWord (word : List Char) : (ofWord word).Ordered := by
  rw [ofWord]
  split <;> exact ordered_of_isTable_false rfl

theorem forall_of_readEntry {P : Json → Prop} {readItem : Reader Json} {entry : String × Json}
    (each : ∀ text item rest, readItem text = some (item, rest) → P item)
    (read : readEntry readItem text = some (entry, rest)) : P entry.2 := by
  obtain ⟨⟨key, behind⟩, -, read⟩ := Option.bind_eq_some_iff.mp read
  obtain ⟨after, -, read⟩ := Option.bind_eq_some_iff.mp read
  obtain ⟨⟨value, last⟩, item, read⟩ := Option.bind_eq_some_iff.mp read
  cases read
  exact each _ _ _ item

theorem ordered_readBare {value : Json} (read : readBare depth text = some (value, rest)) :
    value.Ordered := by
  -- Only a dictionary is a table, and its values are read one level further in.
  fun_induction readBare depth text generalizing value rest with
  | case1 | case2 | case6 => cases read; exact ordered_of_isTable_false rfl
  | case3 depth text item =>
    rename_i ih
    obtain ⟨⟨entries, behind⟩, items, read⟩ := Option.bind_eq_some_iff.mp read
    cases read
    refine ordered_ofMembers (forall_mem_of_readItems (fun text entry after one => ?_) items)
    refine forall_of_readEntry (fun text item after inner => ?_) one
    obtain ⟨⟨value, rest⟩, bare, same⟩ := Option.map_eq_some_iff.mp inner
    cases same
    exact ih text bare
  | case4 =>
    obtain ⟨⟨items, behind⟩, -, read⟩ := Option.bind_eq_some_iff.mp read
    cases read
    exact ordered_of_isTable_false rfl
  | case5 =>
    obtain ⟨⟨s, behind⟩, -, same⟩ := Option.map_eq_some_iff.mp read
    cases same
    exact ordered_of_isTable_false rfl
  | case7 => cases read
  | case8 => cases read; exact ordered_ofWord _

theorem ordered_parse (text : String) : (parse text).Ordered := by
  rw [parse]
  split
  next value rest read =>
    split
    · exact ordered_readBare read
    · exact ordered_of_isTable_false rfl
  next => exact ordered_of_isTable_false rfl

end VariableValue

/-! ## Sources -/

namespace Source

theorem object_overlay (lower upper : Source) :
    Json.object (lower.overlay upper) = (Json.object lower).overlay (.object upper) := by
  rw [Json.overlay, overlay]

theorem ordered_merge {sources : List Source}
    (ordered : ∀ source ∈ sources, (Json.object source).Ordered) :
    (Json.object (merge sources)).Ordered := by
  suffices general : ∀ base : Source, (Json.object base).Ordered →
      (Json.object (sources.foldl overlay base)).Ordered from
    general [] (ordered_object List.Pairwise.nil (by simp))
  induction sources with
  | nil => exact fun _ known => known
  | cons source sources ih =>
    intro base known
    obtain ⟨first, later⟩ := List.forall_mem_cons.mp ordered
    refine ih later _ ?_
    rw [object_overlay]
    exact known.overlay first

/-! ### Sources laid over each other -/

/-- The leaf at the end of a path. -/
def leaf? (path : List String) (source : Source) : Option Json :=
  (Json.object source).leaf? path

/-- No path leads to a table in one source and to a leaf in the other. -/
def Agree (lower upper : Source) : Prop :=
  (Json.object lower).Agree (.object upper)

variable {sources : List Source} {source : Source}

theorem object_merge_concat (sources : List Source) (source : Source) :
    Json.object (merge (sources ++ [source])) =
      (Json.object (merge sources)).overlay (.object source) := by
  rw [← object_overlay, merge, List.foldl_concat, merge]

theorem agree_merge (pairs : sources.Pairwise Agree)
    (ordered : ∀ source ∈ sources, (Json.object source).Ordered)
    (each : ∀ lower ∈ sources, lower.Agree source) : (merge sources).Agree source := by
  induction sources using List.reverseRecOn generalizing source with
  | nil =>
    intro path a b left right
    cases path with
    | nil => cases left; cases right; rfl
    | cons key path => cases left
  | append_singleton sources last ih =>
    obtain ⟨earlier, -, between⟩ := List.pairwise_append.mp pairs
    have under := fun lower member => ordered lower (List.mem_append_left [last] member)
    have below : (merge sources).Agree last :=
      ih earlier under fun lower member => between lower member last (List.mem_singleton_self _)
    have beside : (merge sources).Agree source :=
      ih earlier under fun lower member => each lower (List.mem_append_left [last] member)
    rw [Agree, object_merge_concat]
    exact (Json.Agree.overlay below (ordered last (by simp)) beside.symm (each last (by simp)).symm).symm

theorem agree_merge_last {sources : List Source} {last : Source}
    (pairs : (sources ++ [last]).Pairwise Agree)
    (ordered : ∀ source ∈ sources ++ [last], (Json.object source).Ordered) :
    (merge sources).Agree last := by
  obtain ⟨earlier, -, between⟩ := List.pairwise_append.mp pairs
  exact agree_merge earlier (fun lower member => ordered lower (List.mem_append_left _ member))
    fun lower member => between lower member last (List.mem_singleton_self _)

/-- Of the sources that have a leaf the last one decides. -/
theorem leaf?_merge (pairs : sources.Pairwise Agree)
    (ordered : ∀ source ∈ sources, (Json.object source).Ordered) (path : List String) :
    (merge sources).leaf? path = sources.reverse.findSome? (leaf? path) := by
  induction sources using List.reverseRecOn with
  | nil => cases path <;> rfl
  | append_singleton sources last ih =>
    have earlier := ih (List.pairwise_append.mp pairs).1
      fun source member => ordered source (List.mem_append_left _ member)
    rw [leaf?, object_merge_concat,
      leaf?_overlay (agree_merge_last pairs ordered) (ordered last (by simp)), List.reverse_concat,
      List.findSome?_cons, ← earlier]
    cases found : (Json.object last).leaf? path with
    | none => rw [leaf?, found]; rfl
    | some value => rw [leaf?, found]; rfl

/-- What one of the sources has is there in all of them together. -/
theorem covers_merge (pairs : sources.Pairwise Agree)
    (ordered : ∀ source ∈ sources, (Json.object source).Ordered) (member : source ∈ sources) :
    (Json.object (merge sources)).Covers (.object source) := by
  induction sources using List.reverseRecOn with
  | nil => cases member
  | append_singleton sources last ih =>
    have below := agree_merge_last pairs ordered
    have upper : (Json.object last).Ordered := ordered last (by simp)
    rw [object_merge_concat]
    rcases List.mem_append.mp member with earlier | here
    · have covers := ih (List.pairwise_append.mp pairs).1
        (fun source member => ordered source (List.mem_append_left _ member)) earlier
      exact covers.overlay below upper
    · cases List.mem_singleton.mp here
      exact covers_overlay below upper

/-! ### The sources of a configuration -/

theorem object_defaults : Json.object defaults = (AppConfig.toJson {}).sorted := rfl

theorem ordered_defaults : (Json.object defaults).Ordered :=
  object_defaults ▸ ordered_sorted _

theorem ordered_ofToml? {document : String} {source : Source} (read : ofToml? document = some source) :
    (Json.object source).Ordered := by
  obtain ⟨entries, -, read⟩ := Option.bind_eq_some_iff.mp read
  obtain ⟨members, all, made⟩ := Option.bind_eq_some_iff.mp read
  cases made
  refine ordered_ofMembers fun member known => ?_
  obtain ⟨value, origin, carried⟩ := exists_of_mem_carriedMembers? all member known
  exact (Toml.Value.ordered_entriesToJson entries _ origin).carried? carried

theorem ordered_ofVariable (names : VariableNames) (name text : String) :
    (Json.object (ofVariable names name text)).Ordered := by
  rw [ofVariable]
  split
  · exact ordered_singleton (ordered_nest (VariableValue.ordered_parse text) _)
  · exact ordered_object List.Pairwise.nil (by simp)

theorem ordered_ofVariables (names : VariableNames) (environment : List (String × String)) :
    (Json.object (ofVariables names environment)).Ordered := by
  refine ordered_merge fun source member => ?_
  obtain ⟨assigned, -, rfl⟩ := List.mem_map.mp member
  exact ordered_ofVariable names _ _

end Source

end Trellis
