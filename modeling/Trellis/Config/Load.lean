import Trellis.Config.Files
import Trellis.Config.Source
import Trellis.Object.Construction
/-!
# Loading configurations

A configuration is loaded from three sources, each laid over the one before: the defaults, one
configuration file, and the environment. An explicit path decides alone which file is read: if there is
none, no file is. Otherwise the first one that exists of a few usual places is read. Whatever comes out
has to be a valid configuration.
-/

namespace Trellis

/-- What a loader finds around it. -/
structure Surroundings where
  files : Files
  workingDirectory : Place
  home : Place
  /-- Where the user keeps configurations, when it is not the usual place. -/
  configHome : Option Place
  /-- The environment variables. -/
  environment : List (String × String)

/-- A path to a configuration file. -/
inductive ConfigPath where
  /-- From the root of all files. -/
  | absolute (path : String)
  /-- From the working directory. -/
  | relative (path : String)
  deriving DecidableEq, Repr

/-- How the names of configuring variables start, unless told otherwise. -/
def defaultVariableStart : String := "ONEBUN__"

/-- How a configuration is to be loaded. -/
structure Loader where
  path : Option ConfigPath := none
  variableStart : String := defaultVariableStart

/-- The file that a loader decides on. -/
inductive FileChoice where
  | nothing
  /-- An explicit path without a file. -/
  | missing (shown : String)
  /-- A file with its content; a directory in the place of a file has none. -/
  | found (shown : String) (content : Option String)
  deriving DecidableEq, Repr

namespace ConfigPath

def shown (files : Files) : ConfigPath → String
  | .absolute path => files.shown path
  | .relative path => path

/-- Whether there is something at the end of the path. -/
def leads (s : Surroundings) : ConfigPath → Bool
  | .absolute path => (s.files.find? [] path).isSome
  | .relative path => (s.files.find? s.workingDirectory path).isSome

/-- The content of the file. A relative path is tried in the working directory and then in the
directories above it. -/
def content? (s : Surroundings) : ConfigPath → Option String
  | .absolute path => s.files.read? [] path
  | .relative path =>
    (Place.line s.workingDirectory).reverse.findSome? fun directory => s.files.read? directory path

end ConfigPath

/-- The name of a configuration file. -/
def configFileName : String := "onebun.toml"

/-- The directory of configuration files where they do not stand alone. -/
def configDirectoryName : String := "onebun"

/-- The usual places of a configuration file, the first one that exists being read. -/
def Surroundings.candidates (s : Surroundings) : List Place :=
  [ s.workingDirectory ++ [configFileName],
    s.workingDirectory ++ [configDirectoryName, configFileName],
    s.configHome.getD (s.home ++ [".config"]) ++ [configDirectoryName, configFileName],
    s.home ++ ["." ++ configDirectoryName, configFileName] ]

namespace FileChoice

/-- The choice of a loader. -/
def of (loader : Loader) (s : Surroundings) : FileChoice :=
  match loader.path with
  | some path =>
    if path.leads s then .found (path.shown s.files) (path.content? s)
    else .missing (path.shown s.files)
  | none =>
    match s.candidates.find? s.files.exists? with
    | some place => .found (s.files.shownPlace place) (s.files.contents.get? place)
    | none => .nothing

/-- The report of a choice. -/
def events : FileChoice → List Event
  | .nothing => []
  | .missing shown =>
    [{ level := .warn, message := "Configuration file not found: " ++ shown, fields := [] }]
  | .found shown _ =>
    [{ level := .info, message := "Configuration loaded from " ++ shown, fields := [] }]

/-- The settings of the file, none of them without a file; none at all when it is not well-formed. -/
def source? : FileChoice → Option Source
  | .found _ (some content) => Source.ofToml? content
  | _ => some []

end FileChoice

/-- A failure to make a configuration of the sources. -/
def extractionFailure (detail : String) : Error :=
  .inConfigContext "Failed to extract configuration" (.foreign detail)

namespace Loader

/-- The variables that configure an application. -/
def variableNames (loader : Loader) : VariableNames :=
  { start := loader.variableStart, separator := "__" }

/-- All sources in one, given the settings of the file. -/
def merged (loader : Loader) (s : Surroundings) (file : Source) : Source :=
  Source.merge [.defaults, file, .ofVariables loader.variableNames s.environment]

/-- The configuration that some settings make. -/
def extract (settings : Source) : Except Error AppConfig := do
  let config ←
    match AppConfig.decodeWith .ignored (.object settings) with
    | .ok config => pure config
    | .error mismatch => throw (extractionFailure mismatch.message)
  config.validate
  return config

/-- The configuration of some surroundings, apart from what is reported. -/
def load? (loader : Loader) (s : Surroundings) : Except Error AppConfig :=
  match (FileChoice.of loader s).source? with
  | none => .error (extractionFailure "the configuration file is not well-formed")
  | some file => extract (loader.merged s file)

/-- Loads a configuration and reports which file it chose. -/
def load (loader : Loader) (s : Surroundings) : Logged (Except Error AppConfig) := do
  emitAll (FileChoice.of loader s).events
  return loader.load? s

end Loader

end Trellis
