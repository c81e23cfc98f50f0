import Trellis.Config.Load
import Trellis.Proofs.Config.Tree
/-!
# What is read from settings

A configuration is read from settings field by field. If the settings cover the default ones, every
field of the configuration is there, and each leaf of the configuration is the leaf of the settings at
the same path. In the free settings infinities and NaN become null; nothing else is changed.

* `Reads` is what a record's fields have to do for one part of the record: one of them sets it, and the
  others leave it alone. `decode_of_decodeRecord` concludes from it what the part has been read from.
* `takenFrom_of_decodeWith` says that every leaf of a configuration is one of the settings, and
  `leaf?_settings_of_decodeWith` that none of the free settings is left out.
-/

namespace Trellis

open Json

theorem exists_of_bind_eq_ok {ε α β : Type} {first : Except ε α} {next : α → Except ε β} {b : β}
    (ran : first >>= next = .ok b) : ∃ a, first = .ok a ∧ next a = .ok b := by
  cases first with
  | error fault => cases ran
  | ok a => exact ⟨a, rfl, ran⟩

/-! ## Records -/

namespace Json

variable {ρ β : Type} {typeName name : String} {surplus : Surplus} {fields : List (Field ρ)}
  {base record next : ρ} {decode : Decoder β} {put : ρ → β → ρ} {get : ρ → β}
  {members : List (String × Json)} {value : Json}

/-- A field that is decoded and then written. -/
def Field.of (name : String) (decode : Decoder β) (put : ρ → β → ρ) : Field ρ :=
  ⟨name, fun record value => return put record (← decode value)⟩

theorem Field.update_of (read : (Field.of name decode put).update record value = .ok next) :
    ∃ part, decode value = .ok part ∧ next = put record part := by
  obtain ⟨part, decoded, written⟩ := exists_of_bind_eq_ok read
  cases written
  exact ⟨part, decoded, rfl⟩

/-- Reading the field leaves a part of the record alone. -/
def Field.Keeps (field : Field ρ) (get : ρ → β) : Prop :=
  ∀ record value next, field.update record value = .ok next → get next = get record

theorem Field.keeps_of {γ : Type} {get : ρ → γ} (same : ∀ record part, get (put record part) = get record) :
    (Field.of name decode put).Keeps get := by
  intro record value next read
  obtain ⟨part, -, rfl⟩ := update_of read
  exact same record part

/-- One field sets a part of the record, and the others leave it alone. -/
structure Reads (fields : List (Field ρ)) (name : String) (decode : Decoder β) (get : ρ → β) : Prop where
  known : ∃ field ∈ fields, field.name = name
  sets : ∀ field ∈ fields, field.name = name → ∀ record value next,
    field.update record value = .ok next → decode value = .ok (get next)
  keeps : ∀ field ∈ fields, field.name ≠ name → field.Keeps get

/-- No field is of that name or touches that part of the record. -/
def Untouched (fields : List (Field ρ)) (name : String) (get : ρ → β) : Prop :=
  ∀ field ∈ fields, field.name ≠ name ∧ field.Keeps get

theorem untouched_nil (name : String) (get : ρ → β) : Untouched ([] : List (Field ρ)) name get :=
  fun _ member => nomatch member

theorem Untouched.cons {γ : Type} {get : ρ → γ} {other : String} (rest : Untouched fields other get)
    (apart : name ≠ other) (same : ∀ record part, get (put record part) = get record) :
    Untouched (.of name decode put :: fields) other get :=
  List.forall_mem_cons.mpr ⟨⟨apart, Field.keeps_of same⟩, rest⟩

theorem Reads.here (others : Untouched fields name get)
    (sets : ∀ record part, get (put record part) = part) :
    Reads (.of name decode put :: fields) name decode get where
  known := ⟨_, List.mem_cons_self, rfl⟩
  sets field member named record value next read := by
    rcases List.mem_cons.mp member with rfl | other
    · obtain ⟨part, decoded, rfl⟩ := Field.update_of read
      rw [sets]
      exact decoded
    · exact absurd named (others field other).1
  keeps field member apart := by
    rcases List.mem_cons.mp member with rfl | other
    · exact absurd rfl apart
    · exact (others field other).2

theorem Reads.there {γ : Type} {other : String} {decodeOther : Decoder γ} {get : ρ → γ}
    (reads : Reads fields other decodeOther get) (apart : name ≠ other)
    (same : ∀ record part, get (put record part) = get record) :
    Reads (.of name decode put :: fields) other decodeOther get where
  known := by
    obtain ⟨field, member, named⟩ := reads.known
    exact ⟨field, List.mem_cons_of_mem _ member, named⟩
  sets field member named := by
    rcases List.mem_cons.mp member with rfl | other
    · exact absurd named apart
    · exact reads.sets field other named
  keeps field member differs := by
    rcases List.mem_cons.mp member with rfl | other
    · exact Field.keeps_of same
    · exact reads.keeps field other differs

/-- A member read into a record: the field of its name takes it, if there is one. -/
def readMember (fields : List (Field ρ)) (record : ρ) (member : String × Json) : Except Mismatch ρ :=
  match fields.find? (·.name == member.1) with
  | some field => field.update record member.2
  | none => .ok record

theorem decodeRecord_object :
    decodeRecord typeName surplus fields base (.object members) =
      members.foldlM (readMember fields) base := rfl

theorem Reads.readMember_self (reads : Reads fields name decode get)
    (read : readMember fields record (name, value) = .ok next) : decode value = .ok (get next) := by
  rw [readMember] at read
  split at read
  next field found =>
    exact reads.sets field (List.mem_of_find?_eq_some found) (by simpa using List.find?_some found)
      record value next read
  next missing =>
    obtain ⟨field, member, same⟩ := reads.known
    simpa [same] using List.find?_eq_none.mp missing field member

theorem Reads.readMember_of_ne {other : String} (reads : Reads fields name decode get)
    (apart : other ≠ name) (read : readMember fields record (other, value) = .ok next) :
    get next = get record := by
  rw [readMember] at read
  split at read
  next field found =>
    have named : field.name = other := by simpa using List.find?_some found
    exact reads.keeps field (List.mem_of_find?_eq_some found) (named ▸ apart) record value next read
  next => cases read; rfl

theorem Reads.get_of_foldlM (reads : Reads fields name decode get)
    (read : members.foldlM (readMember fields) base = .ok record) (absent : name ∉ Dict.keys members) :
    get record = get base := by
  induction members generalizing base with
  | nil => cases read; rfl
  | cons member members ih =>
    obtain ⟨apart, absent⟩ := not_or.mp fun either => absent (List.mem_cons.mpr either)
    rw [List.foldlM_cons] at read
    obtain ⟨next, first, later⟩ := exists_of_bind_eq_ok read
    rw [ih later absent, reads.readMember_of_ne (Ne.symm apart) first]

/-- A part of a record is read from the member of its name. -/
theorem Reads.decode_of_decodeRecord (reads : Reads fields name decode get)
    (distinct : (Dict.keys members).Nodup) (found : Dict.get? members name = some value)
    (read : decodeRecord typeName surplus fields base (.object members) = .ok record) :
    decode value = .ok (get record) := by
  rw [decodeRecord_object] at read
  induction members generalizing base with
  | nil => cases found
  | cons member members ih =>
    obtain ⟨key, content⟩ := member
    obtain ⟨fresh, distinct⟩ := List.nodup_cons.mp distinct
    rw [List.foldlM_cons] at read
    obtain ⟨next, first, later⟩ := exists_of_bind_eq_ok read
    rw [Dict.get?_cons] at found
    split at found
    next same =>
      -- No later member has this name, so what is read here stays.
      subst same
      cases found
      rw [reads.readMember_self first, reads.get_of_foldlM later fresh]
    next => exact ih distinct found later

end Json

/-! ## Leaves -/

/-- What a field that takes a single leaf is read from is what it is written as. -/
structure Json.Scalar {α : Type} (decode : Decoder α) (encode : α → Json) : Prop where
  plain : ∀ a, (encode a).isTable = false
  finite : ∀ a, (encode a).finite = encode a
  exact : ∀ value a, value.isTable = false → decode value = .ok a → value = encode a

theorem scalar_string : Scalar decodeString .string where
  plain _ := rfl
  finite _ := rfl
  exact value _ _ read := by cases value with
    | string => cases read; rfl
    | _ => cases read

theorem scalar_bool : Scalar decodeBool .bool where
  plain _ := rfl
  finite _ := rfl
  exact value _ _ read := by cases value with
    | bool => cases read; rfl
    | _ => cases read

theorem scalar_path : Scalar (decodeOption decodePath) .optString where
  plain path := by cases path <;> rfl
  finite path := by cases path <;> rfl
  exact value _ _ read := by cases value with
    | null => cases read; rfl
    | string => cases read; rfl
    | _ => cases read

theorem scalar_policy : Scalar WiringPolicy.decode (.string ·.name) where
  plain _ := rfl
  finite _ := rfl
  exact value policy plain read := by
    cases value with
    | string name =>
      simp only [WiringPolicy.decode, decodeChoice] at read
      split at read
      next found =>
        cases read
        simp only [List.lookup_cons] at found
        split at found
        next best => cases found; rw [beq_iff_eq.mp best]; rfl
        next =>
          split at found
          next strict => cases found; rw [beq_iff_eq.mp strict]; rfl
          next => cases found
      next => cases read
    | object => cases plain
    | _ => cases read

/-! ## The fields of a configuration -/

def LoggingConfig.fields : List (Json.Field LoggingConfig) :=
  [ .of "level" decodeString fun logging level => { logging with level },
    .of "json_format" decodeBool fun logging jsonFormat => { logging with jsonFormat },
    .of "file_output" (decodeOption decodePath) fun logging fileOutput => { logging with fileOutput } ]

/-- A setting as it is kept. -/
def decodeSetting : Decoder Json := fun value => .ok value.finite

def AppConfig.fields (surplus : Surplus) : List (Json.Field AppConfig) :=
  [ .of "name" decodeString fun config name => { config with name },
    .of "logging" (LoggingConfig.decodeWith surplus) fun config logging => { config with logging },
    .of "wiring" (WiringPolicy.decodePart surplus) fun config policy => { config with policy },
    .of "settings" (decodeDict decodeSetting) fun config settings => { config with settings } ]

theorem LoggingConfig.decodeWith_eq (surplus : Surplus) :
    decodeWith surplus = decodeRecord "LoggingConfig" surplus fields {} := rfl

theorem AppConfig.decodeWith_eq (surplus : Surplus) :
    decodeWith surplus = decodeRecord "AppConfig" surplus (fields surplus) {} := rfl

variable {surplus : Surplus}

theorem reads_level : Reads LoggingConfig.fields "level" decodeString (·.level) :=
  .here (.cons (.cons (untouched_nil _ _) (by decide) fun _ _ => rfl) (by decide) fun _ _ => rfl)
    fun _ _ => rfl

theorem reads_jsonFormat : Reads LoggingConfig.fields "json_format" decodeBool (·.jsonFormat) :=
  .there (.here (.cons (untouched_nil _ _) (by decide) fun _ _ => rfl) fun _ _ => rfl) (by decide)
    fun _ _ => rfl

theorem reads_fileOutput :
    Reads LoggingConfig.fields "file_output" (decodeOption decodePath) (·.fileOutput) :=
  .there (.there (.here (untouched_nil _ _) fun _ _ => rfl) (by decide) fun _ _ => rfl) (by decide)
    fun _ _ => rfl

theorem reads_policy :
    Reads [⟨"policy", fun _ value => WiringPolicy.decode value⟩] "policy" WiringPolicy.decode id where
  known := ⟨_, List.mem_singleton_self _, rfl⟩
  sets field member _ record value next read := by
    cases List.mem_singleton.mp member
    exact read
  keeps field member apart := by
    cases List.mem_singleton.mp member
    exact absurd rfl apart

theorem reads_name : Reads (AppConfig.fields surplus) "name" decodeString (·.name) :=
  .here (.cons (.cons (.cons (untouched_nil _ _) (by decide) fun _ _ => rfl) (by decide)
    fun _ _ => rfl) (by decide) fun _ _ => rfl) fun _ _ => rfl

theorem reads_logging :
    Reads (AppConfig.fields surplus) "logging" (LoggingConfig.decodeWith surplus) (·.logging) :=
  .there (.here (.cons (.cons (untouched_nil _ _) (by decide) fun _ _ => rfl) (by decide)
    fun _ _ => rfl) fun _ _ => rfl) (by decide) fun _ _ => rfl

theorem reads_wiring :
    Reads (AppConfig.fields surplus) "wiring" (WiringPolicy.decodePart surplus) (·.policy) :=
  .there (.there (.here (.cons (untouched_nil _ _) (by decide) fun _ _ => rfl) fun _ _ => rfl)
    (by decide) fun _ _ => rfl) (by decide) fun _ _ => rfl

theorem reads_settings :
    Reads (AppConfig.fields surplus) "settings" (decodeDict decodeSetting) (·.settings) :=
  .there (.there (.there (.here (untouched_nil _ _) fun _ _ => rfl) (by decide) fun _ _ => rfl)
    (by decide) fun _ _ => rfl) (by decide) fun _ _ => rfl

/-! ## Settings -/

namespace Json

@[simp]
theorem isTable_finite (value : Json) : value.finite.isTable = value.isTable := by
  cases value with
  | number n =>
    cases n with
    | int => rfl
    | float x => rw [finite]; split <;> rfl
  | _ => rfl

theorem get?_finiteMembers (members : List (String × Json)) (key : String) :
    Dict.get? (finiteMembers members) key = (Dict.get? members key).map finite := by
  induction members with
  | nil => rfl
  | cons member members ih =>
    obtain ⟨first, value⟩ := member
    rw [finiteMembers, Dict.get?_cons, Dict.get?_cons, ih]
    split <;> rfl

theorem keys_finiteMembers (members : List (String × Json)) :
    Dict.keys (finiteMembers members) = Dict.keys members := by
  induction members with
  | nil => rfl
  | cons member members ih => exact congrArg (member.1 :: ·) ih

theorem field?_finite (value : Json) (key : String) :
    value.finite.field? key = (value.field? key).map finite := by
  cases plain : value.isTable with
  | true =>
    obtain ⟨members, rfl⟩ := exists_object_of_isTable plain
    exact get?_finiteMembers members key
  | false =>
    rw [field?_of_isTable_false plain, field?_of_isTable_false ((isTable_finite value).trans plain)]
    rfl

theorem at?_finite (value : Json) (path : List String) :
    value.finite.at? path = (value.at? path).map finite := by
  induction path generalizing value with
  | nil => rfl
  | cons key path ih =>
    rw [at?_cons, at?_cons, field?_finite]
    cases value.field? key with
    | none => rfl
    | some inner => exact ih inner

theorem leaf?_finite (value : Json) (path : List String) :
    value.finite.leaf? path = (value.leaf? path).map finite := by
  rw [leaf?, leaf?, at?_finite]
  cases found : value.at? path with
  | none => rfl
  | some inner => simp only [Option.map_some, Option.filter_some, isTable_finite]; split <;> rfl

theorem mapM_decodeSetting (members : List (String × Json)) :
    (members.mapM fun (key, value) => do return (key, ← decodeSetting value) : Except Mismatch _) =
      .ok (finiteMembers members) := by
  induction members with
  | nil => rfl
  | cons member members ih =>
    rw [List.mapM_cons, ih]
    rfl

/-- The settings that are kept are those that have been read. -/
theorem decodeDict_decodeSetting {members : List (String × Json)}
    (ordered : (Dict.keys members).Pairwise (· < ·)) :
    decodeDict decodeSetting (.object members) = .ok (finiteMembers members) := by
  have kept : Dict.ofList (finiteMembers members) = finiteMembers members :=
    Dict.ofList_of_pairwise (keys_finiteMembers members ▸ ordered)
  rw [decodeDict, mapM_decodeSetting]
  exact congrArg Except.ok kept

/-! ## Leaves that are kept -/

/-- Every leaf of a value is that of another one at the same path, as a setting keeps it. -/
def TakenFrom (made value : Json) : Prop :=
  ∀ path a, made.leaf? path = some a → (value.leaf? path).map finite = some a

theorem takenFrom_object {members : List (String × Json)} {value : Json}
    (each : ∀ member ∈ members, ∃ inner, value.field? member.1 = some inner ∧
      member.2.TakenFrom inner) : (Json.object members).TakenFrom value := by
  intro path a leaf
  cases path with
  | nil =>
    -- A table is no leaf.
    cases (leaf?_eq_some_iff.mp leaf).1
    cases (leaf?_eq_some_iff.mp leaf).2
  | cons key path =>
    obtain ⟨found, plain⟩ := leaf?_eq_some_iff.mp leaf
    obtain ⟨inner, here, below⟩ := Option.bind_eq_some_iff.mp found
    obtain ⟨other, there, taken⟩ := each (key, inner) (Dict.mem_of_get? here)
    rw [leaf?_of_field? there]
    exact taken path a (leaf?_eq_some_iff.mpr ⟨below, plain⟩)

theorem takenFrom_finite (value : Json) : value.finite.TakenFrom value := by
  intro path a leaf
  rw [← leaf?_finite, leaf]

variable {α ρ : Type} {decode : Decoder α} {encode : α → Json} {get : ρ → α} {typeName name : String}
  {fields : List (Field ρ)} {base record : ρ} {members : List (String × Json)} {start : Json}

theorem Scalar.takenFrom (scalar : Scalar decode encode) (a : α) : (encode a).TakenFrom (encode a) := by
  have taken := takenFrom_finite (encode a)
  rw [scalar.finite] at taken
  exact taken

/-- A leaf that is read into a record is that of the settings. -/
theorem Scalar.takenFrom_of_decodeRecord (scalar : Scalar decode encode)
    (reads : Reads fields name decode get) (ordered : (Json.object members).Ordered)
    (covers : (Json.object members).Covers start) {leaf : Json} (has : start.field? name = some leaf)
    (plain : leaf.isTable = false)
    (read : decodeRecord typeName surplus fields base (.object members) = .ok record) :
    ∃ inner, (Json.object members).field? name = some inner ∧
      (encode (get record)).TakenFrom inner := by
  obtain ⟨value, found, same, -⟩ := covers.field name has
  have decoded := reads.decode_of_decodeRecord
    (ordered.keys.imp fun less => String.ne_of_lt less) found read
  have exact := scalar.exact value _ (same.trans plain) decoded
  exact ⟨value, found, exact ▸ scalar.takenFrom _⟩

end Json

theorem LoggingConfig.takenFrom {members : List (String × Json)} {logging : LoggingConfig}
    (ordered : (Json.object members).Ordered)
    (covers : (Json.object members).Covers (LoggingConfig.toJson {}).sorted)
    (read : LoggingConfig.decodeWith surplus (.object members) = .ok logging) :
    logging.toJson.TakenFrom (.object members) := by
  rw [decodeWith_eq] at read
  refine takenFrom_object ?_
  simp only [List.forall_mem_cons, List.not_mem_nil, false_imp_iff, implies_true, and_true]
  exact ⟨scalar_string.takenFrom_of_decodeRecord reads_level ordered covers rfl rfl read,
    scalar_bool.takenFrom_of_decodeRecord reads_jsonFormat ordered covers rfl rfl read,
    scalar_path.takenFrom_of_decodeRecord reads_fileOutput ordered covers rfl rfl read⟩

theorem WiringPolicy.takenFrom {members : List (String × Json)} {policy : WiringPolicy}
    (ordered : (Json.object members).Ordered)
    (covers : (Json.object members).Covers (.object [("policy", .string bestEffort.name)]))
    (read : WiringPolicy.decodePart surplus (.object members) = .ok policy) :
    (Json.object [("policy", .string policy.name)]).TakenFrom (.object members) := by
  refine takenFrom_object ?_
  simp only [List.forall_mem_cons, List.not_mem_nil, false_imp_iff, implies_true, and_true]
  exact scalar_policy.takenFrom_of_decodeRecord reads_policy ordered covers rfl rfl read

namespace AppConfig

variable {settings : Source} {config : AppConfig}

/-- The settings of a configuration are those it is read from. -/
theorem object_settings_of_decodeWith (ordered : (Json.object settings).Ordered)
    (covers : (Json.object settings).Covers (.object Source.defaults))
    (read : decodeWith surplus (.object settings) = .ok config) :
    ∃ inner, (Json.object settings).field? "settings" = some inner ∧ inner.isTable ∧
      Json.object config.settings = inner.finite := by
  obtain ⟨value, found, table, -⟩ := covers.field "settings" rfl
  obtain ⟨members, rfl⟩ := exists_object_of_isTable table
  have decoded := reads_settings.decode_of_decodeRecord
    (ordered.keys.imp fun less => String.ne_of_lt less) found read
  rw [decodeDict_decodeSetting (ordered.field found).keys] at decoded
  exact ⟨_, found, rfl, by rw [← Except.ok.inj decoded, finite]⟩

/-- Every leaf of a configuration is that of the settings it is read from. -/
theorem takenFrom_of_decodeWith (ordered : (Json.object settings).Ordered)
    (covers : (Json.object settings).Covers (.object Source.defaults))
    (read : decodeWith surplus (.object settings) = .ok config) :
    config.toJson.TakenFrom (.object settings) := by
  have distinct : (Dict.keys settings).Nodup := ordered.keys.imp fun less => String.ne_of_lt less
  refine takenFrom_object ?_
  simp only [List.forall_mem_cons, List.not_mem_nil, false_imp_iff, implies_true, and_true]
  refine ⟨scalar_string.takenFrom_of_decodeRecord reads_name ordered covers rfl rfl read, ?logging,
    ?wiring, ?settings⟩
  case logging =>
    obtain ⟨value, found, table, inside⟩ := covers.field "logging" rfl
    obtain ⟨members, rfl⟩ := exists_object_of_isTable table
    have decoded := reads_logging.decode_of_decodeRecord distinct found read
    exact ⟨_, found, LoggingConfig.takenFrom (ordered.field found) inside decoded⟩
  case wiring =>
    obtain ⟨value, found, table, inside⟩ := covers.field "wiring" rfl
    obtain ⟨members, rfl⟩ := exists_object_of_isTable table
    have decoded := reads_wiring.decode_of_decodeRecord distinct found read
    exact ⟨_, found, WiringPolicy.takenFrom (ordered.field found) inside decoded⟩
  case settings =>
    obtain ⟨inner, found, -, kept⟩ := object_settings_of_decodeWith ordered covers read
    exact ⟨inner, found, kept ▸ takenFrom_finite inner⟩

/-- No leaf in the free settings is left out. -/
theorem leaf?_settings_of_decodeWith (ordered : (Json.object settings).Ordered)
    (covers : (Json.object settings).Covers (.object Source.defaults))
    (read : decodeWith surplus (.object settings) = .ok config) (path : List String) :
    config.toJson.leaf? ("settings" :: path) =
      ((Json.object settings).leaf? ("settings" :: path)).map finite := by
  obtain ⟨inner, found, -, kept⟩ := object_settings_of_decodeWith ordered covers read
  have here : config.toJson.field? "settings" = some (.object config.settings) := rfl
  rw [leaf?_of_field? here, leaf?_of_field? found, kept, leaf?_finite]

end AppConfig

end Trellis
