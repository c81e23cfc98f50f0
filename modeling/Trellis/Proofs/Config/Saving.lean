import Trellis.Config.Save
import Trellis.Proofs.Config.Loading
import Trellis.Proofs.Text.Cutting
/-!
# What a saved configuration is loaded as

A configuration is saved as a TOML document with everything it holds, except for a log file that is not
set. It is loaded by reading the document, laying it over the defaults and reading the result field by
field. A configuration with a null in its settings cannot be saved.

What comes back is the same configuration exactly if no object in its settings, however deep, has one of
the keys that configuration files reserve: a table with such a key does not stand for itself.

* `ofJson?_eq_none_iff` says what TOML cannot write, and `toJson_ofJson?` what it writes.
* `merge_saved` and `decode_saved` follow a saved document through loading.
* `save_then_load` says when a configuration comes back.
-/

namespace Trellis

open Json

/-! ## Values in TOML -/

namespace Toml.Value

variable {value : Json} {t : Value} {items : List Json} {members : List (String × Json)}
  {values : List Value} {entries : List (String × Value)}

theorem ofItems?_cons {item : Json} :
    ofItems? (item :: items) = some values ↔
      ∃ first rest, ofJson? item = some first ∧ ofItems? items = some rest ∧ values = first :: rest :=
  both_eq_some_iff

theorem ofMembers?_cons {key : String} :
    ofMembers? ((key, value) :: members) = some entries ↔
      ∃ first rest, ofJson? value = some first ∧ ofMembers? members = some rest ∧
        entries = (key, first) :: rest :=
  both_eq_some_iff

theorem itemsToJson_ofItems? (each : ∀ item ∈ items, ∀ t, ofJson? item = some t → t.toJson = item.sorted)
    (made : ofItems? items = some values) : itemsToJson values = sortedItems items := by
  induction items generalizing values with
  | nil => cases made; rfl
  | cons item items ih =>
    obtain ⟨first, rest, here, there, rfl⟩ := ofItems?_cons.mp made
    obtain ⟨one, others⟩ := List.forall_mem_cons.mp each
    rw [itemsToJson, sortedItems, one first here, ih others there]

theorem entriesToJson_ofMembers?
    (each : ∀ member ∈ members, ∀ t, ofJson? member.2 = some t → t.toJson = member.2.sorted)
    (made : ofMembers? members = some entries) : entriesToJson entries = sortedMembers members := by
  induction members generalizing entries with
  | nil => cases made; rfl
  | cons member members ih =>
    obtain ⟨first, rest, here, there, rfl⟩ := ofMembers?_cons.mp made
    obtain ⟨one, others⟩ := List.forall_mem_cons.mp each
    rw [entriesToJson, sortedMembers, one first here, ih others there]

/-- A value that is written as TOML is the same value, with the members of its objects in order. -/
theorem toJson_ofJson? (made : ofJson? value = some t) : t.toJson = value.sorted := by
  induction value using nested generalizing t with
  | null => cases made
  | bool | string => cases made; rfl
  | number n => cases n <;> cases made <;> rfl
  | array items ih =>
    obtain ⟨values, inside, rfl⟩ := Option.map_eq_some_iff.mp made
    exact congrArg Json.array (itemsToJson_ofItems? (fun item member _ => ih item member) inside)
  | object members ih =>
    obtain ⟨entries, inside, rfl⟩ := Option.map_eq_some_iff.mp made
    exact congrArg Json.ofMembers
      (entriesToJson_ofMembers? (fun member known _ => ih member known) inside)

theorem ofItems?_eq_none_iff : ofItems? items = none ↔ ∃ item ∈ items, ofJson? item = none := by
  induction items with
  | nil => simp [ofItems?]
  | cons item items ih =>
    rw [List.exists_mem_cons_iff, ← ih, ofItems?]
    cases ofJson? item <;> cases ofItems? items <;> simp

theorem ofMembers?_eq_none_iff :
    ofMembers? members = none ↔ ∃ member ∈ members, ofJson? member.2 = none := by
  induction members with
  | nil => simp [ofMembers?]
  | cons member members ih =>
    rw [List.exists_mem_cons_iff, ← ih, ofMembers?]
    cases ofJson? member.2 <;> cases ofMembers? members <;> simp

/-- There is no null in TOML, and nothing else that it cannot write. -/
theorem ofJson?_eq_none_iff : ofJson? value = none ↔ Json.null ∈ value.atoms := by
  induction value using nested with
  | null => simp [ofJson?, atoms]
  | bool | string => simp [ofJson?, atoms]
  | number n => cases n <;> simp [ofJson?, atoms]
  | array items ih =>
    rw [ofJson?, Option.map_eq_none_iff, ofItems?_eq_none_iff, mem_atoms_array]
    exact exists_congr fun item => and_congr_right fun member => ih item member
  | object members ih =>
    rw [ofJson?, Option.map_eq_none_iff, ofMembers?_eq_none_iff, mem_atoms_object]
    exact exists_congr fun member => and_congr_right fun known => ih member known

end Toml.Value

/-- Reading a document gives back what has been written, with the tables in the order of their keys. -/
def Toml.Survives (document : List (String × Toml.Value)) : Prop :=
  (Toml.read? (Toml.documentText document)).map Toml.Value.entriesToJson =
    some (Toml.Value.entriesToJson document)

theorem Toml.survives_of_same {document : List (String × Toml.Value)}
    (alike : (Toml.read? (Toml.documentText document)).any fun entries =>
      same (.object (Toml.Value.entriesToJson entries)) (.object (Toml.Value.entriesToJson document))) :
    Toml.Survives document := by
  obtain ⟨entries, read, alike⟩ := (Option.any_eq_true _ _).mp alike
  rw [Toml.Survives, read, Option.map_some, Json.object.inj (eq_of_same alike)]

namespace AppConfig

/-! ## A saved configuration as a source -/

/-- The logging of a saved configuration; a log file that is not set is left out. -/
def savedLogging (logging : LoggingConfig) : List (String × Json) :=
  (logging.fileOutput.toList.map fun path => ("file_output", Json.string path)) ++
    [("json_format", .bool logging.jsonFormat), ("level", .string logging.level)]

/-- The source that a saved configuration is read as, given what its free settings stand for. -/
def savedSource (config : AppConfig) (settings : Json) : Source :=
  [ ("logging", .object (savedLogging config.logging)), ("name", .string config.name),
    ("settings", settings), ("wiring", .object [("policy", .string config.policy.name)]) ]

theorem sortedMembers_savedMembers (config : AppConfig) :
    sortedMembers config.savedMembers =
      [ ("name", .string config.name), ("logging", .object (savedLogging config.logging)),
        ("wiring", .object [("policy", .string config.policy.name)]),
        ("settings", (Json.object config.settings).sorted) ] := by
  obtain ⟨name, ⟨level, jsonFormat, fileOutput⟩, policy, settings⟩ := config
  cases fileOutput with
  | none => rfl
  | some path => rfl

/-- A configuration cannot be saved exactly if there is a null in its settings. -/
theorem ofMembers?_savedMembers_eq_none_iff (config : AppConfig) :
    Toml.Value.ofMembers? config.savedMembers = none ↔
      Json.null ∈ (Json.object config.settings).atoms := by
  have logging : ∃ written, Toml.Value.ofJson? (.object <|
      [("level", Json.string config.logging.level), ("json_format", .bool config.logging.jsonFormat)] ++
        config.logging.fileOutput.toList.map fun path => ("file_output", Json.string path)) =
      some written := by
    cases config.logging.fileOutput with
    | none => exact ⟨_, rfl⟩
    | some path => exact ⟨_, rfl⟩
  obtain ⟨written, logging⟩ := logging
  rw [Toml.Value.ofMembers?_eq_none_iff, savedMembers]
  simp only [List.exists_mem_cons_iff, logging, ← Toml.Value.ofJson?_eq_none_iff]
  simp [Toml.Value.ofJson?, Toml.Value.ofMembers?]

theorem carriedMembers?_saved (config : AppConfig) (settings : Json) :
    Source.carriedMembers?
      [ ("name", .string config.name), ("logging", .object (savedLogging config.logging)),
        ("wiring", .object [("policy", .string config.policy.name)]), ("settings", settings) ] =
      settings.carried?.map fun carried =>
        [ ("name", .string config.name), ("logging", .object (savedLogging config.logging)),
          ("wiring", .object [("policy", .string config.policy.name)]), ("settings", carried) ] := by
  have logging : (Json.object (savedLogging config.logging)).carried? =
      some (.object (savedLogging config.logging)) := by
    rw [savedLogging]
    cases config.logging.fileOutput with
    | none => rfl
    | some path => rfl
  have wiring : (Json.object [("policy", .string config.policy.name)]).carried? =
      some (.object [("policy", .string config.policy.name)]) := rfl
  simp only [Source.carriedMembers?, logging, wiring]
  cases settings.carried? with
  | none => rfl
  | some carried => rfl

/-- The source that a saved configuration is read as. -/
theorem ofToml?_of_survives {config : AppConfig} {document : List (String × Toml.Value)}
    (written : Toml.Value.ofMembers? config.savedMembers = some document)
    (survives : Toml.Survives document) :
    Source.ofToml? (Toml.documentText document) =
      (Json.object config.settings).sorted.carried?.map config.savedSource := by
  obtain ⟨entries, read, same⟩ := Option.map_eq_some_iff.mp survives
  have members : Toml.Value.entriesToJson document = sortedMembers config.savedMembers :=
    Toml.Value.entriesToJson_ofMembers? (fun _ _ _ => Toml.Value.toJson_ofJson?) written
  rw [Source.ofToml?, read, Option.bind_eq_bind, Option.bind_some, same, members,
    sortedMembers_savedMembers, carriedMembers?_saved]
  cases (Json.object config.settings).sorted.carried? with
  | none => rfl
  | some carried => rfl

/-! ## Loading it -/

theorem merge_saved (config : AppConfig) (settings : Json) :
    Source.merge [.defaults, config.savedSource settings, []] =
      [ ("logging", config.logging.toJson.sorted), ("name", .string config.name),
        ("settings", (Json.object []).overlay settings),
        ("wiring", .object [("policy", .string config.policy.name)]) ] := by
  obtain ⟨name, ⟨level, jsonFormat, fileOutput⟩, policy, _⟩ := config
  cases fileOutput with
  | none => rfl
  | some path => rfl

end AppConfig

theorem LoggingConfig.decodeWith_toJson (logging : LoggingConfig) (surplus : Surplus) :
    LoggingConfig.decodeWith surplus logging.toJson.sorted = .ok logging := by
  obtain ⟨level, jsonFormat, fileOutput⟩ := logging
  cases fileOutput with
  | none => rfl
  | some path => rfl

theorem WiringPolicy.decodePart_name (policy : WiringPolicy) (surplus : Surplus) :
    WiringPolicy.decodePart surplus (.object [("policy", .string policy.name)]) = .ok policy := by
  cases policy with
  | bestEffort => rfl
  | strict => rfl

/-- A member with the name of a field is read by that field. -/
theorem Json.readMember_of {ρ β : Type} {fields : List (Field ρ)} {name : String} {decode : Decoder β}
    {put : ρ → β → ρ} (found : fields.find? (·.name == name) = some (.of name decode put)) (record : ρ)
    (value : Json) : readMember fields record (name, value) = (decode value).map (put record) := by
  rw [readMember, found]
  show (do return put record (← decode value)) = _
  cases decode value with
  | error mismatch => rfl
  | ok part => rfl

namespace AppConfig

/-- Everything of a saved configuration is read back, except perhaps its settings. -/
theorem decode_saved (config : AppConfig) (settings : Json) :
    decodeWith .ignored (.object (Source.merge [.defaults, config.savedSource settings, []])) =
      (decodeDict decodeSetting ((Json.object []).overlay settings)).map fun settings =>
        { config with settings } := by
  have logging : readMember (fields .ignored) {} ("logging", config.logging.toJson.sorted) =
      .ok { logging := config.logging } := by
    rw [readMember_of rfl, LoggingConfig.decodeWith_toJson]
    rfl
  have name : readMember (fields .ignored) { logging := config.logging } ("name", .string config.name) =
      .ok { name := config.name, logging := config.logging } := by
    rw [readMember_of rfl]
    rfl
  have wiring : ∀ settings, readMember (fields .ignored)
      { name := config.name, logging := config.logging, settings }
      ("wiring", .object [("policy", .string config.policy.name)]) = .ok { config with settings } := by
    intro settings
    rw [readMember_of rfl, WiringPolicy.decodePart_name]
    rfl
  rw [merge_saved, decodeWith_eq, decodeRecord_object, List.foldlM_cons, logging]
  simp only [bind, Except.bind, List.foldlM_cons, List.foldlM_nil, name]
  rw [readMember_of rfl]
  cases decodeDict decodeSetting ((Json.object []).overlay settings) with
  | error mismatch => rfl
  | ok settings =>
    simp only [Except.map, wiring]
    rfl

/-- A configuration as it is held: it is valid, the members of every object in its settings are in the
order of their keys, and its floats are finite. -/
structure Proper (config : AppConfig) : Prop where
  valid : config.validate = .ok ()
  sorted : (Json.object config.settings).sorted = .object config.settings
  finite : ∀ x, Json.float x ∈ (Json.object config.settings).atoms → x.isFinite

variable {config : AppConfig} {settings : Json}

/-- A configuration is read back exactly if its settings stand for themselves. -/
theorem extract_saved_iff (proper : config.Proper)
    (carried : (Json.object config.settings).carried? = some settings) :
    Loader.extract (Source.merge [.defaults, config.savedSource settings, []]) = .ok config ↔
      ∀ key ∈ (Json.object config.settings).keysInside, ¬Reserved key := by
  have ordered : (Json.object config.settings).Ordered := proper.sorted ▸ ordered_sorted _
  rw [Loader.extract_eq_ok_iff, decode_saved, overlay_empty (ordered.carried? carried)]
  constructor
  · rintro ⟨read, -⟩
    cases settings with
    | object members =>
      -- What has been carried has no reserved keys, and it is what was saved.
      rw [decodeDict_decodeSetting (ordered.carried? carried).keys] at read
      have kept : config.settings = finiteMembers members :=
        (congrArg AppConfig.settings (Except.ok.inj read)).symm
      intro key known
      have same : Json.object config.settings = (Json.object members).finite := by
        rw [kept, Json.finite]
      rw [same, mem_keysInside_finite] at known
      exact not_reserved_of_carried? carried key known
    | _ => cases read
  · intro free
    obtain rfl : Json.object config.settings = settings :=
      Option.some.inj ((carried?_eq_self free).symm.trans carried)
    have kept : finiteMembers config.settings = config.settings := by
      have same := finite_eq_self proper.finite
      rw [Json.finite] at same
      exact Json.object.inj same
    rw [decodeDict_decodeSetting ordered.keys, kept]
    exact ⟨rfl, proper.valid⟩

end AppConfig

/-! ## Places -/

/-- The place at the end of a path, whether or not there is anything. -/
def ConfigPath.place? (s : Surroundings) (path : ConfigPath) : Option Place :=
  if path.text.toList.head? = some '/' then none
  else s.files.walk (path.start s) (Files.splitPath path.text)

theorem Files.splitPath_ne_nil (path : String) : splitPath path ≠ [] := by
  simpa [splitPath] using Text.splitAt_ne_nil '/' path.toList

section Writing

variable {s : Surroundings} {path : String} {place : Place}

/-- The surroundings after a file has been written. -/
def Surroundings.written (s : Surroundings) (place : Place) (content : String) : Surroundings :=
  { s with files := { s.files with contents := s.files.contents.put place content } }

theorem write?_eq_some (leads : (ConfigPath.absolute path).place? s = some place)
    (free : s.files.isDirectory place = false) (content : String) :
    s.files.write? [] path content = some (s.written place content).files := by
  rw [ConfigPath.place?] at leads
  split at leads
  · cases leads
  next inside =>
    -- The path leads to the directory of the file, and its last name from there to the place.
    have names := List.dropLast_append_getLast (Files.splitPath_ne_nil path)
    have last := List.getLast?_eq_some_getLast (Files.splitPath_ne_nil path)
    rw [Files.walk, ConfigPath.text, ← names, List.foldlM_append] at leads
    obtain ⟨directory, above, step⟩ := Option.bind_eq_some_iff.mp leads
    have down : s.files.walk [] (Files.splitPath path).dropLast = some directory := above
    have here : s.files.step directory ((Files.splitPath path).getLast?.getD "") = some place := by
      rw [last]
      simpa using step
    have apart : ¬(path.toList.head? = some '/' ∨ s.files.isDirectory place = true) := by
      rintro (root | directory)
      · exact inside root
      · rw [free] at directory
        cases directory
    rw [Files.write?]
    simp only [down, here, Option.bind_eq_bind, Option.bind_some, if_neg apart]
    rfl

/-- A file that has been written is the one at the end of every path to its place. -/
theorem own?_written {path : ConfigPath} (leads : path.place? s = some place) (content : String) :
    path.own? (s.written place content) = some content := by
  rw [ConfigPath.place?] at leads
  split at leads
  · cases leads
  next inside =>
    have walk : (s.written place content).files.walk (path.start (s.written place content))
        (Files.splitPath path.text) = some place := by
      cases path <;> exact leads
    have there : (s.written place content).files.contents.get? place = some content :=
      Table.get?_put_self _ _ _
    have found : (s.written place content).files.exists? place := by
      rw [Files.exists?, Table.has, there]
      simp
    rw [ConfigPath.own?, Files.read?, Files.find?, if_neg inside, walk, Option.filter_some, if_pos found,
      Option.bind_some, there]

end Writing

/-! ## There and back -/

/-- A loader for the file at a place, with nothing to add from the environment. -/
structure Loader.PointsAt (loader : Loader) (s : Surroundings) (place : Place) : Prop where
  path : ∃ path, loader.path = some path ∧ path.place? s = some place
  alone : ∀ assigned ∈ s.environment,
    afterStart? loader.variableStart.toList (Text.trim assigned.1.toList) = none

/-- Variables that do not start like configuring ones set nothing. -/
theorem ofVariables_of_alone {names : VariableNames} {environment : List (String × String)}
    (alone : ∀ assigned ∈ environment, afterStart? names.start.toList (Text.trim assigned.1.toList) = none) :
    Source.ofVariables names environment = [] := by
  rw [Source.ofVariables, Source.merge]
  induction environment with
  | nil => rfl
  | cons assigned environment ih =>
    obtain ⟨name, text⟩ := assigned
    obtain ⟨first, others⟩ := List.forall_mem_cons.mp alone
    have foreign : names.path? name = none := by
      rw [VariableNames.path?, first]
      rfl
    have empty : Source.ofVariable names name text = [] := by
      rw [Source.ofVariable, foreign]
    rw [List.map_cons, List.foldl_cons]
    simp only [empty]
    exact ih others

theorem Loader.choice_of_pointsAt {loader : Loader} {s : Surroundings} {place : Place}
    (points : loader.PointsAt s place) (content : String) :
    (FileChoice.of loader (s.written place content)).source? = Source.ofToml? content := by
  obtain ⟨path, explicit, leads⟩ := points.path
  rw [chooses_iff.mp (.itself explicit (own?_written leads content)), FileChoice.source?]

/-- A saved configuration and what is loaded from where it has been saved. A null in the settings cannot
be saved; the failure is one of configuration, and there are no files after it. Otherwise the file is
written and nothing else is changed. If its document is read as the data it was written from, and no
variable adds anything, then what is loaded is the same configuration exactly if no object in its
settings has a reserved key. -/
theorem save_then_load (config : AppConfig) (s : Surroundings) {path : String} {place : Place}
    (leads : (ConfigPath.absolute path).place? s = some place)
    (free : s.files.isDirectory place = false) :
    match Toml.Value.ofMembers? config.savedMembers with
    | none =>
      Json.null ∈ (Json.object config.settings).atoms ∧
        ∃ error, config.saveTo path s.files = .error error ∧ error.kind = "Configuration"
    | some document =>
      Json.null ∉ (Json.object config.settings).atoms ∧
        config.saveTo path s.files = .ok (s.written place (Toml.documentText document)).files ∧
        (Toml.Survives document → config.Proper → ∀ loader : Loader, loader.PointsAt s place →
          (loader.load? (s.written place (Toml.documentText document)) = .ok config ↔
            ∀ key ∈ (Json.object config.settings).keysInside, ¬Reserved key)) := by
  cases written : Toml.Value.ofMembers? config.savedMembers with
  | none =>
    refine ⟨(AppConfig.ofMembers?_savedMembers_eq_none_iff config).mp written, ?_⟩
    rw [AppConfig.saveTo, AppConfig.documentText?, written]
    exact ⟨_, rfl, rfl⟩
  | some document =>
    refine ⟨fun null => ?_, ?_, fun survives proper loader points => ?_⟩
    · rw [(AppConfig.ofMembers?_savedMembers_eq_none_iff config).mpr null] at written
      cases written
    · rw [AppConfig.saveTo, AppConfig.documentText?, written, Option.map_some]
      simp only [write?_eq_some leads free]
    · have alone : Source.ofVariables loader.variableNames
          (s.written place (Toml.documentText document)).environment = [] :=
        ofVariables_of_alone points.alone
      rw [Loader.load?, Loader.choice_of_pointsAt points,
        AppConfig.ofToml?_of_survives written survives, proper.sorted]
      cases carried : (Json.object config.settings).carried? with
      | none =>
        -- A key that tells an origin makes the whole file unreadable.
        simp only [Option.map_none]
        constructor
        · intro loaded
          cases loaded
        · intro free
          rw [carried?_eq_self free] at carried
          cases carried
      | some settings =>
        simp only [Option.map_some, Loader.merged, alone]
        exact AppConfig.extract_saved_iff proper carried

/-! ## Two shops

The settings of the first one come back as they were saved. In those of the second one there is a table
with a reserved key, and what comes back in its place is the value under that key. -/

/-- Surroundings with nothing but a directory for configurations. -/
def office : Surroundings :=
  { files := .ofNames "/r" [] [["etc"]], workingDirectory := [], home := [], configHome := none,
    environment := [] }

theorem pointsAt_office : Loader.PointsAt { path := some (.absolute "etc/shop.toml") } office
    ["etc", "shop.toml"] where
  path := ⟨_, rfl, by decide +kernel⟩
  alone := by simp [office]

/-- A shop with a catalog and a log file. -/
def shop : AppConfig :=
  { name := "shop"
    logging := { level := "debug", fileOutput := some "shop.log" }
    settings := [("catalog", .array [.string "lamp", .object [("price", .int 12)]]), ("open", .bool true)] }

def shopDocument : List (String × Toml.Value) :=
  [ ("name", .string "shop"),
    ("logging", .table [("level", .string "debug"), ("json_format", .boolean false),
      ("file_output", .string "shop.log")]),
    ("wiring", .table [("policy", .string "best_effort")]),
    ("settings", .table [("catalog", .array [.string "lamp", .table [("price", .integer 12)]]),
      ("open", .boolean true)]) ]

theorem proper_shop : shop.Proper where
  valid := rfl
  sorted := eq_of_same (by decide +kernel)
  finite x known := by
    simp [shop, atoms, atomsOfMembers, atomsOfItems, Json.float, Json.int] at known

/-- A shop that comes back as it was saved. -/
theorem save_then_load_shop :
    (ConfigPath.absolute "etc/shop.toml").place? office = some ["etc", "shop.toml"] ∧
      office.files.isDirectory ["etc", "shop.toml"] = false ∧
      ∃ files, shop.saveTo "etc/shop.toml" office.files = .ok files ∧
        Loader.load? { path := some (.absolute "etc/shop.toml") } { office with files } = .ok shop := by
  have leads : (ConfigPath.absolute "etc/shop.toml").place? office = some ["etc", "shop.toml"] := by
    decide +kernel
  have free : office.files.isDirectory ["etc", "shop.toml"] = false := by decide +kernel
  have outcome := save_then_load shop office leads free
  have written : Toml.Value.ofMembers? shop.savedMembers = some shopDocument := rfl
  have survives : Toml.Survives shopDocument := Toml.survives_of_same (by decide +kernel)
  rw [written] at outcome
  obtain ⟨-, saved, loaded⟩ := outcome
  refine ⟨leads, free, _, saved, (loaded survives proper_shop _ pointsAt_office).mpr ?_⟩
  have free : ∀ key ∈ (Json.object shop.settings).keysInside, key ≠ carrierKey ∧ key ≠ originKey := by
    decide +kernel
  exact fun key known => not_or.mpr (free key known)

/-- A shop with a table in its settings that has a reserved key. -/
def tagged : AppConfig :=
  { name := "shop", settings := [("tag", .object [(carrierKey, .int 12)])] }

def taggedDocument : List (String × Toml.Value) :=
  [ ("name", .string "shop"),
    ("logging", .table [("level", .string "info"), ("json_format", .boolean false)]),
    ("wiring", .table [("policy", .string "best_effort")]),
    ("settings", .table [("tag", .table [(carrierKey, .integer 12)])]) ]

theorem proper_tagged : tagged.Proper where
  valid := rfl
  sorted := eq_of_same (by decide +kernel)
  finite x known := by
    simp [tagged, atoms, atomsOfMembers, Json.float, Json.int] at known

/-- A configuration may be saved in a document that is read as what has been written, and yet another
one is loaded: here the table has become the number in it. -/
theorem not_restored_tagged :
    (¬∀ (config : AppConfig) (s : Surroundings) (path : String) (place : Place)
        (document : List (String × Toml.Value)) (loader : Loader),
      (ConfigPath.absolute path).place? s = some place → s.files.isDirectory place = false →
      config.Proper → Toml.Value.ofMembers? config.savedMembers = some document →
      Toml.Survives document → loader.PointsAt s place →
      loader.load? (s.written place (Toml.documentText document)) = .ok config) ∧
    (Loader.load? { path := some (.absolute "etc/shop.toml") }
        (office.written ["etc", "shop.toml"] (Toml.documentText taggedDocument))).toOption.any
      fun config => Json.eqvMembers config.settings [("tag", .int 12)] := by
  have outcome : (Loader.load? { path := some (.absolute "etc/shop.toml") }
      (office.written ["etc", "shop.toml"] (Toml.documentText taggedDocument))).toOption.any
        fun config => Json.eqvMembers config.settings [("tag", .int 12)] := by
    decide +kernel
  refine ⟨fun always => ?_, outcome⟩
  have written : Toml.Value.ofMembers? tagged.savedMembers = some taggedDocument := rfl
  have survives : Toml.Survives taggedDocument := Toml.survives_of_same (by decide +kernel)
  have same := always tagged office "etc/shop.toml" ["etc", "shop.toml"] taggedDocument
    { path := some (.absolute "etc/shop.toml") } (by decide +kernel) (by decide +kernel) proper_tagged
    written survives pointsAt_office
  rw [same] at outcome
  revert outcome
  decide +kernel

end Trellis
