import Trellis.Proofs.Config.Extraction
import Trellis.Proofs.Config.Sources
/-!
# What loading a configuration comes to

Three sources are laid over each other and read as a configuration. Every leaf of the configuration has
the value of the environment if that sets it, else the value of the file, else the default one, so a leaf
that is set in one source does not disturb its siblings in another; and what is loaded is valid.

Which file is read is decided by `Loader.Chooses`. An explicit path without anything at its end means
no file at all. A file at its end is the one that is read. But a relative path may also lead to a
directory. That counts as an existing file, and then the file of that name in the nearest directory
above the working directory is read in its place (`Chooses.above`).

* `chooses_iff` says that the choice is made by these rules.
* `load_comes_to` is what loading comes to.
-/

namespace Trellis

open Json

/-! ## The file that is read -/

namespace ConfigPath

/-- Where a path starts. -/
def start (s : Surroundings) : ConfigPath → Place
  | .absolute _ => []
  | .relative _ => s.workingDirectory

def text : ConfigPath → String
  | .absolute path => path
  | .relative path => path

/-- The content of the file at the end of the path itself. -/
def own? (s : Surroundings) (path : ConfigPath) : Option String :=
  s.files.read? (path.start s) path.text

end ConfigPath

/-- The directories above a place, the nearest one first. -/
def Place.above (place : Place) : List Place :=
  (Place.line place).reverse.tail

theorem Place.line_reverse (place : Place) : (Place.line place).reverse = place :: place.above := by
  have ends : ∀ place : Place, (Place.line place).getLast? = some place := by
    intro place
    induction place with
    | nil => rfl
    | cons name rest ih =>
      rw [line, List.getLast?_cons, List.getLast?_map, ih]
      rfl
  have head : (Place.line place).reverse.head? = some place := by
    rw [List.head?_reverse, ends]
  exact (List.cons_head?_tail head).symm

/-- Which configuration file a loader decides on. -/
inductive Loader.Chooses (loader : Loader) (s : Surroundings) : FileChoice → Prop
  /-- With an explicit path to nothing, no file is read. -/
  | missing {path : ConfigPath} (explicit : loader.path = some path) (nothing : path.leads s = false) :
      Chooses loader s (.missing (path.shown s.files))
  /-- The file at the end of an explicit path. -/
  | itself {path : ConfigPath} {content : String} (explicit : loader.path = some path)
      (own : path.own? s = some content) :
      Chooses loader s (.found (path.shown s.files) (some content))
  /-- A directory at the end of an explicit path from the root has no settings. -/
  | directory {path : String} (explicit : loader.path = some (.absolute path))
      (leads : (ConfigPath.absolute path).leads s) (own : (ConfigPath.absolute path).own? s = none) :
      Chooses loader s (.found (s.files.shown path) none)
  /-- A directory at the end of an explicit path from the working directory: the path is followed from
  the directories above as well, and the first file that it leads to is read. -/
  | above {path : String} (explicit : loader.path = some (.relative path))
      (leads : (ConfigPath.relative path).leads s) (own : (ConfigPath.relative path).own? s = none) :
      Chooses loader s
        (.found path ((Place.above s.workingDirectory).findSome? (s.files.read? · path)))
  /-- Without an explicit path, the first usual place with something in it. -/
  | usual {before after : List Place} {place : Place} (implicit : loader.path = none)
      (places : s.candidates = before ++ place :: after)
      (passed : ∀ earlier ∈ before, s.files.exists? earlier = false) (here : s.files.exists? place) :
      Chooses loader s (.found (s.files.shownPlace place) (s.files.contents.get? place))
  | nowhere (implicit : loader.path = none)
      (passed : ∀ place ∈ s.candidates, s.files.exists? place = false) : Chooses loader s .nothing

namespace Loader

variable {loader : Loader} {s : Surroundings} {choice : FileChoice}

theorem leads_of_own? {path : ConfigPath} {content : String} (own : path.own? s = some content) :
    path.leads s := by
  obtain ⟨place, found, -⟩ := Option.bind_eq_some_iff.mp own
  cases path with
  | absolute => exact Option.isSome_iff_exists.mpr ⟨place, found⟩
  | relative => exact Option.isSome_iff_exists.mpr ⟨place, found⟩

theorem content?_relative (path : String) :
    (ConfigPath.relative path).content? s =
      ((ConfigPath.relative path).own? s).or
        ((Place.above s.workingDirectory).findSome? (s.files.read? · path)) := by
  rw [ConfigPath.content?, Place.line_reverse, List.findSome?_cons]
  cases own : s.files.read? s.workingDirectory path with
  | none => rw [ConfigPath.own?, ConfigPath.start, ConfigPath.text, own]; rfl
  | some content => rw [ConfigPath.own?, ConfigPath.start, ConfigPath.text, own]; rfl

theorem content?_of_own? {path : ConfigPath} {content : String} (own : path.own? s = some content) :
    path.content? s = some content := by
  cases path with
  | absolute => exact own
  | relative => rw [content?_relative, own]; rfl

theorem chooses_of (loader : Loader) (s : Surroundings) : loader.Chooses s (FileChoice.of loader s) := by
  rw [FileChoice.of]
  split
  next path explicit =>
    split
    next leads =>
      cases own : path.own? s with
      | some content =>
        rw [content?_of_own? own]
        exact .itself explicit own
      | none =>
        cases path with
        | absolute path =>
          have nothing : (ConfigPath.absolute path).content? s = none := own
          rw [nothing]
          exact .directory explicit leads own
        | relative path =>
          rw [content?_relative, own]
          exact .above explicit leads own
    next nothing => exact .missing explicit (by simpa using nothing)
  next implicit =>
    split
    next place found =>
      obtain ⟨here, before, after, places, passed⟩ := List.find?_eq_some_iff_append.mp found
      exact .usual implicit places (by simpa using passed) here
    next none => exact .nowhere implicit (by simpa using List.find?_eq_none.mp none)

/-- The rules decide on one file. -/
theorem chooses_iff : loader.Chooses s choice ↔ FileChoice.of loader s = choice := by
  refine ⟨fun chosen => ?_, fun same => same ▸ chooses_of loader s⟩
  rw [FileChoice.of]
  cases chosen with
  | missing explicit nothing => simp only [explicit, nothing, Bool.false_eq_true, if_false]
  | itself explicit own => simp only [explicit, leads_of_own? own, content?_of_own? own, if_true]
  | @directory path explicit leads own =>
    have nothing : (ConfigPath.absolute path).content? s = none := own
    simp only [explicit, leads, nothing, if_true]
    rfl
  | above explicit leads own =>
    simp only [explicit, leads, content?_relative, own, if_true, Option.none_or]
    rfl
  | usual implicit places passed here =>
    have found : s.candidates.find? s.files.exists? = some _ :=
      List.find?_eq_some_iff_append.mpr ⟨here, _, _, places, by simpa using passed⟩
    simp only [implicit, found]
  | nowhere implicit passed =>
    have none : s.candidates.find? s.files.exists? = none :=
      List.find?_eq_none.mpr (by simpa using passed)
    simp only [implicit, none]

/-! ## Failures -/

theorem kind_of_parseLevel {level : String} {error : Error}
    (refused : AppConfig.parseLevel level = .error error) : error.kind = "Configuration" := by
  rw [AppConfig.parseLevel] at refused
  split at refused
  · cases refused
  · cases refused
    rfl

theorem kind_of_validate {config : AppConfig} {error : Error} (refused : config.validate = .error error) :
    error.kind = "Configuration" := by
  rw [AppConfig.validate] at refused
  split at refused
  · cases refused
    rfl
  · cases level : AppConfig.parseLevel config.logging.level with
    | error fault =>
      rw [level] at refused
      cases refused
      exact kind_of_parseLevel level
    | ok _ =>
      simp only [level] at refused
      split at refused
      · cases refused
        rfl
      · cases refused

/-- Settings are read as a valid configuration or not at all. -/
theorem extract_eq_ok_iff {settings : Source} {config : AppConfig} :
    extract settings = .ok config ↔
      AppConfig.decodeWith .ignored (.object settings) = .ok config ∧ config.validate = .ok () := by
  rw [extract]
  constructor
  · intro made
    cases read : AppConfig.decodeWith .ignored (.object settings) with
    | error mismatch => rw [read] at made; cases made
    | ok other =>
      simp only [read, pure_bind] at made
      obtain ⟨_, valid, same⟩ := exists_of_bind_eq_ok made
      cases same
      exact ⟨rfl, valid⟩
  · rintro ⟨read, valid⟩
    simp only [read, pure_bind, valid]
    rfl

theorem kind_of_extract {settings : Source} {error : Error} (failed : extract settings = .error error) :
    error.kind = "Configuration" := by
  rw [extract] at failed
  cases read : AppConfig.decodeWith .ignored (.object settings) with
  | error mismatch => rw [read] at failed; cases failed; rfl
  | ok config =>
    cases valid : config.validate with
    | error fault =>
      simp only [read, pure_bind, valid] at failed
      cases failed
      exact kind_of_validate valid
    | ok _ => simp only [read, pure_bind, valid] at failed; cases failed

/-! ## What is loaded -/

/-- The sources of a configuration, given the settings of its file. -/
def sources (loader : Loader) (s : Surroundings) (file : Source) : List Source :=
  [.defaults, file, .ofVariables loader.variableNames s.environment]

end Loader

theorem FileChoice.ordered_source? {choice : FileChoice} {file : Source}
    (read : choice.source? = some file) : (Json.object file).Ordered := by
  unfold source? at read
  split at read
  · exact Source.ordered_ofToml? read
  · cases read
    exact ordered_object List.Pairwise.nil (by simp)

namespace Loader

variable {loader : Loader} {s : Surroundings} {file : Source}

theorem ordered_sources (ordered : (Json.object file).Ordered) :
    ∀ source ∈ loader.sources s file, (Json.object source).Ordered := by
  simp only [sources, List.forall_mem_cons, List.not_mem_nil, false_imp_iff, implies_true, and_true]
  exact ⟨Source.ordered_defaults, ordered, Source.ordered_ofVariables _ _⟩

/-- The environment decides a leaf before the file, and the file before the defaults. -/
theorem leaf?_merged (ordered : (Json.object file).Ordered)
    (pairs : (loader.sources s file).Pairwise Source.Agree) (path : List String) :
    (loader.merged s file).leaf? path =
      ((Source.ofVariables loader.variableNames s.environment).leaf? path).or
        ((file.leaf? path).or (Source.defaults.leaf? path)) := by
  have decided := Source.leaf?_merge pairs (ordered_sources ordered) path
  rw [merged, ← sources, decided]
  simp only [sources, List.reverse_cons, List.reverse_nil, List.nil_append, List.cons_append,
    List.findSome?_cons]
  cases (Source.ofVariables loader.variableNames s.environment).leaf? path with
  | some value => rfl
  | none =>
    cases file.leaf? path with
    | some value => rfl
    | none => cases Source.defaults.leaf? path <;> rfl

/-- What the environment, the file and the defaults say about a leaf, the first of them that has it
deciding. -/
def decided? (loader : Loader) (s : Surroundings) (file : Source) (path : List String) : Option Json :=
  ((Source.ofVariables loader.variableNames s.environment).leaf? path).or
    ((file.leaf? path).or (Source.defaults.leaf? path))

theorem result_load (loader : Loader) (s : Surroundings) (ledger : Ledger) :
    ((loader.load s).run ledger).1 = loader.load? s := rfl

/-- What loading a configuration comes to. The file is chosen by the rules. Either the configuration is
valid and its leaves are those that the sources decide, as long as the sources agree about what is a
table; or the failure is one of configuration. In free settings infinities and NaN become null. -/
theorem load_comes_to (loader : Loader) (s : Surroundings) (ledger : Ledger) :
    (∀ choice, loader.Chooses s choice ↔ FileChoice.of loader s = choice) ∧
    (∀ error, ((loader.load s).run ledger).1 = .error error → error.kind = "Configuration") ∧
    ∀ config, ((loader.load s).run ledger).1 = .ok config →
      config.validate = .ok () ∧
      ∃ file, (FileChoice.of loader s).source? = some file ∧
        ((loader.sources s file).Pairwise Source.Agree →
          (∀ path value, config.toJson.leaf? path = some value →
            (loader.decided? s file path).map finite = some value) ∧
          ∀ path, config.toJson.leaf? ("settings" :: path) =
            (loader.decided? s file ("settings" :: path)).map finite) := by
  rw [result_load, load?]
  cases read : (FileChoice.of loader s).source? with
  | none =>
    refine ⟨fun _ => chooses_iff, fun error failed => ?_, fun config made => ?_⟩
    · cases failed
      rfl
    · cases made
  | some file =>
    refine ⟨fun _ => chooses_iff, fun error => kind_of_extract, fun config made => ?_⟩
    obtain ⟨decoded, valid⟩ := extract_eq_ok_iff.mp made
    refine ⟨valid, file, rfl, fun pairs => ?_⟩
    have inOrder := FileChoice.ordered_source? read
    have each : ∀ source ∈ loader.sources s file, (Json.object source).Ordered :=
      ordered_sources inOrder
    have ordered := Source.ordered_merge each
    -- The defaults are there under all else, so no field is left to be filled in.
    have covers := Source.covers_merge pairs each List.mem_cons_self
    constructor
    · intro path value leaf
      have taken := AppConfig.takenFrom_of_decodeWith ordered covers decoded path value leaf
      rwa [decided?, ← leaf?_merged inOrder pairs]
    · intro path
      rw [decided?, ← leaf?_merged inOrder pairs]
      exact AppConfig.leaf?_settings_of_decodeWith ordered covers decoded path

/-- A file in one of the usual places that sets the format of the log, and a variable that sets its
level. -/
def layered : Surroundings :=
  { files := .ofNames "/r" [("onebun.toml", "name = \"shop\"\n[logging]\njson_format = true\n")] []
    workingDirectory := []
    home := ["home"]
    configHome := none
    environment := [("ONEBUN__LOGGING__LEVEL", "debug")] }

def layeredFile : Source :=
  [("logging", .object [("json_format", .bool true)]), ("name", .string "shop")]

theorem agree_layered : (sources {} layered layeredFile).Pairwise Source.Agree := by
  have environment : Source.ofVariables (variableNames {}) layered.environment =
      [("logging", .object [("level", .string "debug")])] := rfl
  rw [sources, environment]
  refine .cons ?_ (.cons ?_ (List.pairwise_singleton _ _))
  · simp only [List.forall_mem_cons, List.not_mem_nil, false_imp_iff, implies_true, and_true]
    exact ⟨agree_of_agrees (by decide +kernel), agree_of_agrees (by decide +kernel)⟩
  · simp only [List.forall_mem_cons, List.not_mem_nil, false_imp_iff, implies_true, and_true]
    exact agree_of_agrees (by decide +kernel)

/-- The level comes from the environment, the format from the file, and the policy is the default. -/
theorem load_comes_to_layered :
    (sources {} layered layeredFile).Pairwise Source.Agree ∧
      ∃ config, ((load {} layered).run {}).1 = .ok config ∧ config.logging.level = "debug" ∧
        config.logging.jsonFormat = true ∧ config.policy.name = "best_effort" := by
  refine ⟨agree_layered, ?_⟩
  have loads : ∃ config, ((load {} layered).run {}).1 = .ok config := by
    rw [result_load]
    cases loaded : load? {} layered with
    | error error =>
      have isOk : (load? {} layered).toOption.isSome := by decide +kernel
      rw [loaded] at isOk
      cases isOk
    | ok config => exact ⟨config, rfl⟩
  obtain ⟨config, loaded⟩ := loads
  refine ⟨config, loaded, ?_⟩
  obtain ⟨-, file, read, decided⟩ := (load_comes_to {} layered {}).2.2 config loaded
  have same : (FileChoice.of {} layered).source?.any fun file =>
      same (.object file) (.object layeredFile) := by
    decide +kernel
  rw [read] at same
  obtain rfl : file = layeredFile := Json.object.inj (eq_of_same same)
  have leaves := (decided agree_layered).1
  have level := leaves ["logging", "level"] (.string config.logging.level) rfl
  have format := leaves ["logging", "json_format"] (.bool config.logging.jsonFormat) rfl
  have policy := leaves ["wiring", "policy"] (.string config.policy.name) rfl
  have debug : decided? {} layered layeredFile ["logging", "level"] = some (.string "debug") := rfl
  have json : decided? {} layered layeredFile ["logging", "json_format"] = some (.bool true) := rfl
  have bestEffort : decided? {} layered layeredFile ["wiring", "policy"] =
      some (.string "best_effort") := rfl
  rw [debug] at level
  rw [json] at format
  rw [bestEffort] at policy
  exact ⟨(Json.string.inj (Option.some.inj level)).symm, (Json.bool.inj (Option.some.inj format)).symm,
    (Json.string.inj (Option.some.inj policy)).symm⟩

end Loader

/-! ## A directory in the place of the file

A file above the working directory is read in the place of a directory that an explicit path leads to. -/

/-- A working directory in which `c.toml` is a directory, below a file of that name. -/
def shadowed : Surroundings :=
  { files := .ofNames "/r" [("c.toml", "name = \"shop\"\n")] [["cwd"], ["cwd", "c.toml"]]
    workingDirectory := ["cwd"]
    home := ["home"]
    configHome := none
    environment := [] }

/-- An explicit path may exist, and yet what is loaded is not what it holds but another file: here the
name is taken from the file above, although the path itself holds no settings at all. -/
theorem not_explicit_shadowed :
    (¬∀ (loader : Loader) (s : Surroundings) (path : ConfigPath), loader.path = some path →
      path.leads s → FileChoice.of loader s = .found (path.shown s.files) (path.own? s)) ∧
    (ConfigPath.relative "c.toml").leads shadowed ∧
    (ConfigPath.relative "c.toml").own? shadowed = none ∧
    ((Loader.load? { path := some (.relative "c.toml") } shadowed).toOption.map (·.name)) =
      some "shop" := by
  refine ⟨fun always => ?_, by decide +kernel, by decide +kernel, by decide +kernel⟩
  have same := always { path := some (.relative "c.toml") } shadowed (.relative "c.toml") rfl
    (by decide +kernel)
  revert same
  decide +kernel

end Trellis
