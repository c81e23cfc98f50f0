import Mathlib.Data.List.Nodup
import Trellis.Proofs.Config.Contents
/-!
# Trees of settings

A source is a tree: its tables are the inner nodes, and every other value, a list included, is a leaf.
Laying sources over each other is told here by paths: what stands at the end of a path is what the
upper source has there, laid over what the lower one has. So the leaves of both stay where they are,
and the upper source decides those that both have, as long as the sources agree about what is a table.

* `at?_overlay` and `leaf?_overlay` say what an overlay has at the end of a path.
* `Agree`, `Covers` and `Ordered` are preserved by laying sources over each other.
-/

namespace Trellis

open Json

/-! ## Paths -/

namespace Json

def isTable : Json → Bool
  | .object _ => true
  | _ => false

/-- The value at the end of a path of keys. -/
def at? : (path : List String) → Json → Option Json
  | [], value => some value
  | key :: path, value => (value.field? key).bind (at? path)

/-- The leaf at the end of a path; none where there is a table. -/
def leaf? (path : List String) (value : Json) : Option Json :=
  (value.at? path).filter (!·.isTable)

/-- No path leads to a table in one value and to a leaf in the other. -/
def Agree (first second : Json) : Prop :=
  ∀ path a b, first.at? path = some a → second.at? path = some b → a.isTable = b.isTable

/-- Every table has its members in the order of their keys, each key once. -/
def Ordered (value : Json) : Prop :=
  ∀ path members, value.at? path = some (.object members) → (Dict.keys members).Pairwise (· < ·)

/-- A value has everything that `base` has: tables where it has tables, and leaves where it has
leaves. -/
def Covers (value base : Json) : Prop :=
  ∀ path a, base.at? path = some a → ∃ b, value.at? path = some b ∧ b.isTable = a.isTable

variable {value lower upper first second a b : Json} {path : List String} {key : String}
  {members base : List (String × Json)}

@[simp]
theorem at?_nil (value : Json) : value.at? [] = some value := rfl

@[simp]
theorem at?_cons (value : Json) (key : String) (path : List String) :
    value.at? (key :: path) = (value.field? key).bind (at? path) := rfl

theorem at?_singleton (value : Json) (key : String) : value.at? [key] = value.field? key := by
  rw [at?_cons]
  cases value.field? key <;> rfl

@[simp]
theorem field?_object (members : List (String × Json)) (key : String) :
    (Json.object members).field? key = Dict.get? members key := rfl

theorem field?_of_isTable_false (plain : value.isTable = false) (key : String) :
    value.field? key = none := by
  cases value <;> first | rfl | cases plain

theorem exists_object_of_isTable (table : value.isTable) : ∃ members, value = .object members := by
  cases value <;> first | exact ⟨_, rfl⟩ | cases table

theorem leaf?_eq_some_iff :
    value.leaf? path = some a ↔ value.at? path = some a ∧ a.isTable = false := by
  rw [leaf?, Option.filter_eq_some_iff]
  simp

theorem leaf?_of_field? (found : value.field? key = some a) (path : List String) :
    value.leaf? (key :: path) = a.leaf? path := by
  rw [leaf?, leaf?, at?_cons, found, Option.bind_some]

/-! ## Agreement -/

theorem Agree.symm (agree : first.Agree second) : second.Agree first :=
  fun path a b left right => (agree path b a right left).symm

theorem agree_of_isTable_false (left : first.isTable = false) (right : second.isTable = false) :
    first.Agree second := by
  intro path a b atLeft atRight
  cases path with
  | nil => cases atLeft; cases atRight; rw [left, right]
  | cons key path => rw [at?_cons, field?_of_isTable_false left] at atLeft; cases atLeft

/-- Tables agree if what they have under their common keys does. -/
theorem agree_object (each : ∀ member ∈ members, ∀ b, Dict.get? base member.1 = some b →
    member.2.Agree b) : (Json.object members).Agree (.object base) := by
  intro path a b atLeft atRight
  cases path with
  | nil => cases atLeft; cases atRight; rfl
  | cons key path =>
    obtain ⟨left, here, insideLeft⟩ := Option.bind_eq_some_iff.mp atLeft
    obtain ⟨right, there, insideRight⟩ := Option.bind_eq_some_iff.mp atRight
    exact each (key, left) (Dict.mem_of_get? here) right there path a b insideLeft insideRight

mutual

/-- Whether two values agree, told by evaluation. -/
def agrees : Json → Json → Bool
  | .object members, .object base => agreesMembers members base
  | first, second => !first.isTable && !second.isTable

def agreesMembers : List (String × Json) → List (String × Json) → Bool
  | [], _ => true
  | (key, value) :: members, base =>
    (match Dict.get? base key with
      | some other => agrees value other
      | none => true) && agreesMembers members base

end

theorem agrees_of_mem_agreesMembers (all : agreesMembers members base) :
    ∀ member ∈ members, ∀ b, Dict.get? base member.1 = some b → agrees member.2 b := by
  induction members with
  | nil => simp
  | cons member members ih =>
    rw [agreesMembers, Bool.and_eq_true] at all
    refine List.forall_mem_cons.mpr ⟨fun b found => ?_, ih all.2⟩
    have first := all.1
    rwa [found] at first

theorem agree_of_agrees (alike : agrees first second) : first.Agree second := by
  induction first using nested generalizing second with
  | object members ih =>
    cases second with
    | object base =>
      exact agree_object fun member known b found =>
        ih member known (agrees_of_mem_agreesMembers alike member known b found)
    | _ => cases alike
  | _ =>
    cases second with
    | object => cases alike
    | _ => exact agree_of_isTable_false rfl rfl

theorem Agree.field (agree : first.Agree second) (left : first.field? key = some a)
    (right : second.field? key = some b) : a.Agree b := by
  intro path inner other atLeft atRight
  refine agree (key :: path) inner other ?_ ?_
  · rw [at?_cons, left]; exact atLeft
  · rw [at?_cons, right]; exact atRight

/-! ## Order -/

theorem Ordered.keys (ordered : (Json.object members).Ordered) :
    (Dict.keys members).Pairwise (· < ·) :=
  ordered [] members rfl

theorem Ordered.field (ordered : value.Ordered) (field : value.field? key = some a) : a.Ordered := by
  intro path members inner
  refine ordered (key :: path) members ?_
  rw [at?_cons, field]
  exact inner

theorem ordered_of_isTable_false (plain : value.isTable = false) : value.Ordered := by
  intro path members found
  cases path with
  | nil => cases found; cases plain
  | cons key path => rw [at?_cons, field?_of_isTable_false plain] at found; cases found

theorem ordered_object (keys : (Dict.keys members).Pairwise (· < ·))
    (values : ∀ key value, Dict.get? members key = some value → value.Ordered) :
    (Json.object members).Ordered := by
  intro path inner found
  cases path with
  | nil => cases found; exact keys
  | cons key path =>
    rw [at?_cons, field?_object] at found
    obtain ⟨value, get, below⟩ := Option.bind_eq_some_iff.mp found
    exact values key value get path inner below

/-! ## Laying values over each other -/

theorem overlay_of_isTable_false (plain : upper.isTable = false) : lower.overlay upper = upper := by
  cases upper <;> first | rfl | cases plain

@[simp]
theorem isTable_overlay (lower upper : Json) : (lower.overlay upper).isTable = upper.isTable := by
  cases upper <;> cases lower <;> rfl

end Json

/-- Under each key stands what both tables have there, one laid over the other. -/
theorem Source.get?_overlayMembers {base members : List (String × Json)}
    (distinct : (Dict.keys members).Nodup) (key : String) :
    Dict.get? (overlayMembers base members) key =
      Option.merge Json.overlay (Dict.get? base key) (Dict.get? members key) := by
  induction members generalizing base with
  | nil => simp [overlayMembers]
  | cons member rest ih =>
    obtain ⟨written, value⟩ := member
    obtain ⟨fresh, distinct⟩ := List.nodup_cons.mp distinct
    rw [overlayMembers, ih distinct]
    by_cases same : key = written
    · -- No later member has the key that is written here.
      subst same
      rw [Dict.get?_set_self, Dict.get?_eq_none_iff.mpr fresh, Dict.get?_cons, if_pos rfl]
      cases Dict.get? base key <;> rfl
    · rw [Dict.get?_set_of_ne _ _ same, Dict.get?_cons, if_neg same]

/-- Members with new keys are written as they are. -/
theorem Source.overlayMembers_of_disjoint {base members : List (String × Json)}
    (distinct : (Dict.keys members).Nodup) (fresh : ∀ key ∈ Dict.keys members, key ∉ Dict.keys base) :
    overlayMembers base members = members.foldl (fun dict (key, value) => Dict.set key value dict) base := by
  induction members generalizing base with
  | nil => rfl
  | cons member members ih =>
    obtain ⟨key, value⟩ := member
    obtain ⟨first, distinct⟩ := List.nodup_cons.mp distinct
    have unknown : Dict.get? base key = none :=
      Dict.get?_eq_none_iff.mpr (fresh key List.mem_cons_self)
    rw [overlayMembers, unknown, List.foldl_cons]
    refine ih distinct fun other later known => ?_
    rcases Dict.mem_keys_set.mp known with rfl | before
    · exact first later
    · exact fresh other (List.mem_cons_of_mem _ later) before

theorem Source.pairwise_keys_overlayMembers {base members : List (String × Json)}
    (ordered : (Dict.keys base).Pairwise (· < ·)) :
    (Dict.keys (overlayMembers base members)).Pairwise (· < ·) := by
  induction members generalizing base with
  | nil => exact ordered
  | cons member rest ih => exact ih (Dict.pairwise_keys_set ordered _ _)

namespace Json

variable {value lower upper a b : Json} {path : List String} {key : String}

theorem field?_overlay (tables : lower.isTable = upper.isTable) (ordered : upper.Ordered)
    (key : String) :
    (lower.overlay upper).field? key =
      Option.merge overlay (lower.field? key) (upper.field? key) := by
  cases plain : upper.isTable with
  | true =>
    obtain ⟨members, rfl⟩ := exists_object_of_isTable plain
    obtain ⟨base, rfl⟩ := exists_object_of_isTable (tables.trans plain)
    rw [overlay]
    exact Source.get?_overlayMembers (ordered.keys.imp fun less => String.ne_of_lt less) key
  | false =>
    rw [overlay_of_isTable_false plain, field?_of_isTable_false plain,
      field?_of_isTable_false (tables.trans plain)]
    rfl

/-- Nothing changes over an empty table. -/
theorem overlay_empty (ordered : value.Ordered) : (Json.object []).overlay value = value := by
  cases value with
  | object members =>
    have distinct := ordered.keys.imp fun less => String.ne_of_lt less
    rw [overlay, Source.overlayMembers_of_disjoint distinct fun _ _ known => List.not_mem_nil known]
    exact congrArg Json.object (Dict.ofList_of_pairwise ordered.keys)
  | _ => rfl

/-- What an overlay has at the end of a path. -/
theorem at?_overlay (agree : lower.Agree upper) (ordered : upper.Ordered) (path : List String) :
    (lower.overlay upper).at? path = Option.merge overlay (lower.at? path) (upper.at? path) := by
  induction path generalizing lower upper with
  | nil => rfl
  | cons key path ih =>
    -- At the empty path they agree: either both are tables, or the key leads nowhere in both.
    rw [at?_cons, at?_cons, at?_cons, field?_overlay (agree [] _ _ rfl rfl) ordered]
    cases left : lower.field? key with
    | none => cases upper.field? key <;> simp
    | some a =>
      cases right : upper.field? key with
      | none => simp
      | some b => exact ih (agree.field left right) (ordered.field right)

/-- A leaf of an overlay is that of the upper value, and that of the lower one where the upper one has
none. -/
theorem leaf?_overlay (agree : lower.Agree upper) (ordered : upper.Ordered) (path : List String) :
    (lower.overlay upper).leaf? path = (upper.leaf? path).or (lower.leaf? path) := by
  rw [leaf?, leaf?, leaf?, at?_overlay agree ordered]
  cases left : lower.at? path with
  | none => cases upper.at? path <;> simp
  | some a =>
    cases right : upper.at? path with
    | none => simp
    | some b =>
      have alike := agree path a b left right
      rw [Option.merge_some_some]
      cases plain : b.isTable with
      | true => simp [Option.filter_some, plain, alike]
      | false => simp [Option.filter_some, plain, overlay_of_isTable_false plain]

/-- What both have under a key is the one laid over the other, and all else is what one of them has. -/
theorem of_merge_eq_some {left right : Option Json} {c : Json}
    (found : Option.merge overlay left right = some c) :
    (left = some c ∧ right = none) ∨
      ∃ b, right = some b ∧ (left = none ∧ c = b ∨ ∃ a, left = some a ∧ c = a.overlay b) := by
  cases left with
  | none => cases right with
    | none => cases found
    | some b => exact .inr ⟨b, rfl, .inl ⟨rfl, (Option.some.inj found).symm⟩⟩
  | some a => cases right with
    | none => exact .inl ⟨found, rfl⟩
    | some b => exact .inr ⟨b, rfl, .inr ⟨a, rfl, (Option.some.inj found).symm⟩⟩

/-- A value that agrees with two others agrees with one of them laid over the other. -/
theorem Agree.overlay (agree : lower.Agree upper) (ordered : upper.Ordered)
    (under : value.Agree lower) (top : value.Agree upper) : value.Agree (lower.overlay upper) := by
  intro path a b left right
  rw [at?_overlay agree ordered] at right
  rcases of_merge_eq_some right with ⟨below, -⟩ | ⟨c, above, ⟨-, rfl⟩ | ⟨d, -, rfl⟩⟩
  · exact under path a b left below
  · exact top path a b left above
  · rw [isTable_overlay]
    exact top path a c left above

theorem Covers.refl (value : Json) : value.Covers value :=
  fun _ a found => ⟨a, found, rfl⟩

theorem Covers.field {base : Json} (covers : value.Covers base) (key : String)
    (found : base.field? key = some a) :
    ∃ b, value.field? key = some b ∧ b.isTable = a.isTable ∧ b.Covers a := by
  obtain ⟨b, field, same⟩ := covers [key] a (by rw [at?_singleton, found])
  rw [at?_singleton] at field
  refine ⟨b, field, same, fun path c inner => ?_⟩
  obtain ⟨d, under, alike⟩ := covers (key :: path) c (by rw [at?_cons, found]; exact inner)
  rw [at?_cons, field] at under
  exact ⟨d, under, alike⟩

/-- What covers a value still does so under another value that agrees with it. -/
theorem Covers.overlay {base : Json} (covers : lower.Covers base) (agree : lower.Agree upper)
    (ordered : upper.Ordered) : (lower.overlay upper).Covers base := by
  intro path a found
  obtain ⟨b, below, same⟩ := covers path a found
  rw [at?_overlay agree ordered, below]
  cases above : upper.at? path with
  | none => exact ⟨b, rfl, same⟩
  | some c => exact ⟨b.overlay c, rfl, by rw [isTable_overlay, ← same, agree path b c below above]⟩

theorem covers_overlay (agree : lower.Agree upper) (ordered : upper.Ordered) :
    (lower.overlay upper).Covers upper := by
  intro path a found
  rw [at?_overlay agree ordered, found]
  cases lower.at? path with
  | none => exact ⟨a, rfl, rfl⟩
  | some b => exact ⟨b.overlay a, rfl, isTable_overlay b a⟩

theorem Ordered.overlay (under : lower.Ordered) (top : upper.Ordered) :
    (lower.overlay upper).Ordered := by
  induction upper using nested generalizing lower with
  | object members ih =>
    cases lower with
    | object base =>
      -- Only a table over a table is a new one.
      have distinct := top.keys.imp fun less => String.ne_of_lt less
      rw [Json.overlay]
      refine ordered_object (Source.pairwise_keys_overlayMembers under.keys) fun key value found => ?_
      rw [Source.get?_overlayMembers distinct] at found
      rcases of_merge_eq_some found with ⟨below, -⟩ | ⟨b, above, ⟨-, rfl⟩ | ⟨a, below, rfl⟩⟩
      · exact under.field below
      · exact top.field above
      · exact ih (key, b) (Dict.mem_of_get? above) (under.field below) (top.field above)
    | _ => exact top
  | _ => exact ordered_of_isTable_false rfl

end Json

end Trellis
