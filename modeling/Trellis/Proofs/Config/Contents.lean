import Mathlib.Logic.Basic
import Trellis.Config.Source
/-!
# What a value holds at any depth

A JSON value is made of atoms and of the keys of its objects. What a change of a value does to it can be
told by these, however deep they are: keeping it finite changes nothing if its floats are finite, TOML
can write it if no atom is null, and reading it back from a configuration file keeps it exactly if none
of its keys is one that such files reserve.
-/

namespace Trellis

namespace Json

/-! ## Induction over values -/

mutual

/-- Induction over a value and the values inside. -/
@[elab_as_elim]
theorem nested {motive : Json → Prop} (null : motive .null) (bool : ∀ b, motive (.bool b))
    (number : ∀ n, motive (.number n)) (string : ∀ s, motive (.string s))
    (array : ∀ items, (∀ item ∈ items, motive item) → motive (.array items))
    (object : ∀ members : List (String × Json),
      (∀ member ∈ members, motive member.2) → motive (.object members)) : ∀ value, motive value
  | .null => null
  | .bool b => bool b
  | .number n => number n
  | .string s => string s
  | .array items => array items (nestedItems null bool number string array object items)
  | .object members => object members (nestedMembers null bool number string array object members)

theorem nestedItems {motive : Json → Prop} (null : motive .null) (bool : ∀ b, motive (.bool b))
    (number : ∀ n, motive (.number n)) (string : ∀ s, motive (.string s))
    (array : ∀ items, (∀ item ∈ items, motive item) → motive (.array items))
    (object : ∀ members : List (String × Json),
      (∀ member ∈ members, motive member.2) → motive (.object members)) :
    ∀ items : List Json, ∀ item ∈ items, motive item
  | [] => by simp
  | item :: items => List.forall_mem_cons.mpr
    ⟨nested null bool number string array object item,
      nestedItems null bool number string array object items⟩

theorem nestedMembers {motive : Json → Prop} (null : motive .null) (bool : ∀ b, motive (.bool b))
    (number : ∀ n, motive (.number n)) (string : ∀ s, motive (.string s))
    (array : ∀ items, (∀ item ∈ items, motive item) → motive (.array items))
    (object : ∀ members : List (String × Json),
      (∀ member ∈ members, motive member.2) → motive (.object members)) :
    ∀ members : List (String × Json), ∀ member ∈ members, motive member.2
  | [] => by simp
  | (_, value) :: members => List.forall_mem_cons.mpr
    ⟨nested null bool number string array object value,
      nestedMembers null bool number string array object members⟩

end

/-! ## Atoms and keys -/

mutual

/-- The values at any depth that hold no others. -/
def atoms : Json → List Json
  | .array items => atomsOfItems items
  | .object members => atomsOfMembers members
  | atom => [atom]

def atomsOfItems : List Json → List Json
  | [] => []
  | item :: items => item.atoms ++ atomsOfItems items

def atomsOfMembers : List (String × Json) → List Json
  | [] => []
  | (_, value) :: members => value.atoms ++ atomsOfMembers members

end

mutual

/-- The keys of objects at any depth. -/
def keysInside : Json → List String
  | .array items => keysInsideItems items
  | .object members => keysInsideMembers members
  | _ => []

def keysInsideItems : List Json → List String
  | [] => []
  | item :: items => item.keysInside ++ keysInsideItems items

def keysInsideMembers : List (String × Json) → List String
  | [] => []
  | (key, value) :: members => key :: value.keysInside ++ keysInsideMembers members

end

variable {value : Json} {items : List Json} {members : List (String × Json)} {key : String} {a : Json}

theorem mem_atoms_array : a ∈ (Json.array items).atoms ↔ ∃ item ∈ items, a ∈ item.atoms := by
  rw [atoms]
  induction items with
  | nil => simp [atomsOfItems]
  | cons item items ih => simp [atomsOfItems, ih]

theorem mem_atoms_object :
    a ∈ (Json.object members).atoms ↔ ∃ member ∈ members, a ∈ member.2.atoms := by
  rw [atoms]
  induction members with
  | nil => simp [atomsOfMembers]
  | cons member members ih => simp [atomsOfMembers, ih]

theorem mem_keysInside_array :
    key ∈ (Json.array items).keysInside ↔ ∃ item ∈ items, key ∈ item.keysInside := by
  rw [keysInside]
  induction items with
  | nil => simp [keysInsideItems]
  | cons item items ih => simp [keysInsideItems, ih]

theorem mem_keysInside_object :
    key ∈ (Json.object members).keysInside ↔
      ∃ member ∈ members, key = member.1 ∨ key ∈ member.2.keysInside := by
  rw [keysInside]
  induction members with
  | nil => simp [keysInsideMembers]
  | cons member members ih => simp [keysInsideMembers, ih, or_assoc]

/-! ## Equality that can be evaluated -/

mutual

/-- Whether two values are the same, as far as that can be told by evaluation: floats never are. -/
def same : Json → Json → Bool
  | .null, .null => true
  | .bool a, .bool b => a == b
  | .number (.int a), .number (.int b) => a == b
  | .string a, .string b => a == b
  | .array a, .array b => sameItems a b
  | .object a, .object b => sameMembers a b
  | _, _ => false

def sameItems : List Json → List Json → Bool
  | [], [] => true
  | a :: as, b :: bs => same a b && sameItems as bs
  | _, _ => false

def sameMembers : List (String × Json) → List (String × Json) → Bool
  | [], [] => true
  | (k, a) :: as, (l, b) :: bs => k == l && same a b && sameMembers as bs
  | _, _ => false

end

theorem eq_of_sameItems {as bs : List Json} (each : ∀ a ∈ as, ∀ b, same a b → a = b)
    (alike : sameItems as bs) : as = bs := by
  induction as generalizing bs with
  | nil => cases bs with
    | nil => rfl
    | cons => cases alike
  | cons a as ih => cases bs with
    | nil => cases alike
    | cons b bs =>
      obtain ⟨first, others⟩ := List.forall_mem_cons.mp each
      simp only [sameItems, Bool.and_eq_true] at alike
      rw [first b alike.1, ih others alike.2]

theorem eq_of_sameMembers {as bs : List (String × Json)}
    (each : ∀ a ∈ as, ∀ b, same a.2 b → a.2 = b) (alike : sameMembers as bs) : as = bs := by
  induction as generalizing bs with
  | nil => cases bs with
    | nil => rfl
    | cons => cases alike
  | cons a as ih => cases bs with
    | nil => cases alike
    | cons b bs =>
      obtain ⟨first, others⟩ := List.forall_mem_cons.mp each
      simp only [sameMembers, Bool.and_eq_true, beq_iff_eq] at alike
      rw [ih others alike.2, Prod.ext alike.1.1 (first b.2 alike.1.2)]

theorem eq_of_same {a b : Json} (alike : same a b) : a = b := by
  induction a using nested generalizing b with
  | null => cases b with
    | null => rfl
    | _ => cases alike
  | bool => cases b with
    | bool => simp only [same, beq_iff_eq] at alike; rw [alike]
    | _ => cases alike
  | number n => cases n with
    | int => cases b with
      | number m => cases m with
        | int => simp only [same, beq_iff_eq] at alike; rw [alike]
        | float => cases alike
      | _ => cases alike
    | float => cases b <;> cases alike
  | string => cases b with
    | string => simp only [same, beq_iff_eq] at alike; rw [alike]
    | _ => cases alike
  | array items ih =>
    cases b with
    | array => exact congrArg _ (eq_of_sameItems (fun item member _ => ih item member) alike)
    | _ => cases alike
  | object members ih =>
    cases b with
    | object => exact congrArg _ (eq_of_sameMembers (fun member known _ => ih member known) alike)
    | _ => cases alike

/-! ## Changes member by member -/

theorem sortedMembers_eq_map (members : List (String × Json)) :
    sortedMembers members = members.map fun member => (member.1, member.2.sorted) := by
  induction members with
  | nil => rfl
  | cons member members ih => rw [sortedMembers, ih, List.map_cons]

theorem finiteItems_eq_map (items : List Json) : finiteItems items = items.map finite := by
  induction items with
  | nil => rfl
  | cons item items ih => rw [finiteItems, ih, List.map_cons]

theorem finiteMembers_eq_map (members : List (String × Json)) :
    finiteMembers members = members.map fun member => (member.1, member.2.finite) := by
  induction members with
  | nil => rfl
  | cons member members ih => rw [finiteMembers, ih, List.map_cons]

/-- Without infinities and NaN nothing changes. -/
theorem finite_eq_self (finite : ∀ x, Json.float x ∈ value.atoms → x.isFinite) : value.finite = value := by
  induction value using nested with
  | null | bool | string => rfl
  | number n =>
    cases n with
    | int => rfl
    | float x => rw [Json.finite, if_pos (finite x (by simp [atoms, Json.float]))]
  | array items ih =>
    have same : ∀ item ∈ items, item.finite = item := fun item member =>
      ih item member fun x inside => finite x (mem_atoms_array.mpr ⟨item, member, inside⟩)
    rw [Json.finite, finiteItems_eq_map, List.map_congr_left same, List.map_id']
  | object members ih =>
    have same : ∀ member ∈ members, (member.1, member.2.finite) = member := fun member known =>
      congrArg (member.1, ·)
        (ih member known fun x inside => finite x (mem_atoms_object.mpr ⟨member, known, inside⟩))
    rw [Json.finite, finiteMembers_eq_map, List.map_congr_left same, List.map_id']

theorem mem_keysInside_finite : key ∈ value.finite.keysInside ↔ key ∈ value.keysInside := by
  induction value using nested with
  | null | bool | string => rfl
  | number n =>
    cases n with
    | int => rfl
    | float x => rw [finite]; split <;> rfl
  | array items ih =>
    rw [finite, finiteItems_eq_map, mem_keysInside_array, mem_keysInside_array]
    simp only [List.mem_map, exists_exists_and_eq_and]
    exact exists_congr fun item => and_congr_right fun member => ih item member
  | object members ih =>
    rw [finite, finiteMembers_eq_map, mem_keysInside_object, mem_keysInside_object]
    simp only [List.mem_map, exists_exists_and_eq_and]
    exact exists_congr fun member => and_congr_right fun known => or_congr_right (ih member known)

end Json

/-! ## Carried values -/

/-- Two parts are put together if both are there. -/
theorem both_eq_some_iff {α β γ : Type} {first : Option α} {second : Option β} {put : α → β → γ} {c : γ} :
    (do return put (← first) (← second)) = some c ↔
      ∃ a b, first = some a ∧ second = some b ∧ c = put a b := by
  simp only [Option.bind_eq_bind, Option.bind_eq_some_iff, Option.pure_def, Option.some.injEq]
  constructor
  · rintro ⟨a, here, b, there, rfl⟩
    exact ⟨a, b, here, there, rfl⟩
  · rintro ⟨a, b, here, there, rfl⟩
    exact ⟨a, here, b, there, rfl⟩

namespace Source

variable {members carried : List (String × Json)}

theorem carriedMembers?_cons {key : String} {value : Json} :
    carriedMembers? ((key, value) :: members) = some carried ↔
      ∃ inner rest, value.carried? = some inner ∧ carriedMembers? members = some rest ∧
        carried = (key, inner) :: rest :=
  both_eq_some_iff

theorem keys_carriedMembers? (made : carriedMembers? members = some carried) :
    Dict.keys carried = Dict.keys members := by
  induction members generalizing carried with
  | nil => cases made; rfl
  | cons member members ih =>
    obtain ⟨inner, rest, -, there, rfl⟩ := carriedMembers?_cons.mp made
    exact congrArg (member.1 :: ·) (ih there)

theorem exists_of_mem_carriedMembers? (made : carriedMembers? members = some carried) :
    ∀ member ∈ carried, ∃ value, (member.1, value) ∈ members ∧ value.carried? = some member.2 := by
  induction members generalizing carried with
  | nil => cases made; simp
  | cons member members ih =>
    obtain ⟨inner, rest, here, there, rfl⟩ := carriedMembers?_cons.mp made
    refine List.forall_mem_cons.mpr ⟨⟨member.2, List.mem_cons_self, here⟩, fun later known => ?_⟩
    obtain ⟨value, inside, same⟩ := ih there later known
    exact ⟨value, List.mem_cons_of_mem _ inside, same⟩

theorem carriedMembers?_eq_self (each : ∀ member ∈ members, member.2.carried? = some member.2) :
    carriedMembers? members = some members := by
  induction members with
  | nil => rfl
  | cons member members ih =>
    obtain ⟨here, there⟩ := List.forall_mem_cons.mp each
    exact carriedMembers?_cons.mpr ⟨member.2, members, here, ih there, rfl⟩

variable {items made : List Json}

theorem carriedItems?_cons {item : Json} :
    carriedItems? (item :: items) = some made ↔
      ∃ inner rest, item.carried? = some inner ∧ carriedItems? items = some rest ∧
        made = inner :: rest :=
  both_eq_some_iff

theorem exists_of_mem_carriedItems? (all : carriedItems? items = some made) :
    ∀ item ∈ made, ∃ value ∈ items, value.carried? = some item := by
  induction items generalizing made with
  | nil => cases all; simp
  | cons item items ih =>
    obtain ⟨inner, rest, here, there, rfl⟩ := carriedItems?_cons.mp all
    refine List.forall_mem_cons.mpr ⟨⟨item, List.mem_cons_self, here⟩, fun later known => ?_⟩
    obtain ⟨value, inside, same⟩ := ih there later known
    exact ⟨value, List.mem_cons_of_mem _ inside, same⟩

theorem carriedItems?_eq_self (each : ∀ item ∈ items, item.carried? = some item) :
    carriedItems? items = some items := by
  induction items with
  | nil => rfl
  | cons item items ih =>
    obtain ⟨here, there⟩ := List.forall_mem_cons.mp each
    exact carriedItems?_cons.mpr ⟨item, items, here, ih there, rfl⟩

end Source

namespace Json

variable {value carried : Json} {items : List Json} {members : List (String × Json)} {key : String}

theorem carried?_object :
    (Json.object members).carried? = some carried ↔
      ∃ inside, Source.carriedMembers? members = some inside ∧ Dict.get? inside originKey = none ∧
        carried = (Dict.get? inside carrierKey).getD (.object inside) := by
  rw [carried?, Option.bind_eq_bind, Option.bind_eq_some_iff]
  refine exists_congr fun inside => and_congr_right fun _ => ?_
  rw [← Dict.get?, ← Dict.get?]
  cases Dict.get? inside originKey with
  | none => simp [eq_comm]
  | some origin => simp

/-- The keys that a configuration file reserves. -/
def Reserved (key : String) : Prop :=
  key = carrierKey ∨ key = originKey

/-- Without reserved keys a value stands for itself. -/
theorem carried?_eq_self (free : ∀ key ∈ value.keysInside, ¬Reserved key) :
    value.carried? = some value := by
  induction value using nested with
  | null | bool | number | string => rfl
  | array items ih =>
    have each : ∀ item ∈ items, item.carried? = some item := fun item member =>
      ih item member fun key inside => free key (mem_keysInside_array.mpr ⟨item, member, inside⟩)
    rw [carried?, Source.carriedItems?_eq_self each]
    rfl
  | object members ih =>
    have each : ∀ member ∈ members, member.2.carried? = some member.2 := fun member known =>
      ih member known fun key inside =>
        free key (mem_keysInside_object.mpr ⟨member, known, .inr inside⟩)
    have unreserved : ∀ key ∈ Dict.keys members, ¬Reserved key := fun key known => by
      obtain ⟨member, inside, rfl⟩ := List.mem_map.mp known
      exact free _ (mem_keysInside_object.mpr ⟨member, inside, .inl rfl⟩)
    have noOrigin : Dict.get? members originKey = none :=
      Dict.get?_eq_none_iff.mpr fun known => unreserved _ known (.inr rfl)
    have noCarrier : Dict.get? members carrierKey = none :=
      Dict.get?_eq_none_iff.mpr fun known => unreserved _ known (.inl rfl)
    refine carried?_object.mpr ⟨members, Source.carriedMembers?_eq_self each, noOrigin, ?_⟩
    rw [noCarrier]
    rfl

/-- What a value stands for has no reserved keys. -/
theorem not_reserved_of_carried? (made : value.carried? = some carried) :
    ∀ key ∈ carried.keysInside, ¬Reserved key := by
  induction value using nested generalizing carried with
  | null | bool | number | string => cases made; intro key known; cases known
  | array items ih =>
    obtain ⟨inside, all, rfl⟩ := Option.map_eq_some_iff.mp made
    intro key known
    obtain ⟨item, member, within⟩ := mem_keysInside_array.mp known
    obtain ⟨origin, there, same⟩ := Source.exists_of_mem_carriedItems? all item member
    exact ih origin there same key within
  | object members ih =>
    obtain ⟨inside, all, noOrigin, rfl⟩ := carried?_object.mp made
    have free : ∀ member ∈ inside, ∀ key ∈ member.2.keysInside, ¬Reserved key := fun member known => by
      obtain ⟨origin, there, same⟩ := Source.exists_of_mem_carriedMembers? all member known
      exact ih _ there same
    cases carrier : Dict.get? inside carrierKey with
    | some value => exact free _ (Dict.mem_of_get? carrier)
    | none =>
      intro key known
      obtain ⟨member, there, rfl | within⟩ := mem_keysInside_object.mp known
      · -- A key of the table itself: neither reserved one is there.
        have own : member.1 ∈ Dict.keys inside := List.mem_map_of_mem there
        rintro (same | same)
        · exact Dict.get?_eq_none_iff.mp carrier (same ▸ own)
        · exact Dict.get?_eq_none_iff.mp noOrigin (same ▸ own)
      · exact free member there key within

end Json

end Trellis
