import TargetedConfig.Settings.Reference
import TargetedConfig.Template.Field

/-!
# Settings

Four settings name the environment, the service, the least level that is shown and the form of
what is shown. Each is looked for among the caller's own values, then in the environment, then in
a file of assignments; names count without regard to letter case. Of several spellings of a name
the first counts among the caller's values, and the last elsewhere. A setting that is found nowhere
has a default.
-/

namespace TargetedConfig

inductive Renderer where
  | json
  | console
  deriving DecidableEq

namespace Renderer

def name : Renderer → String
  | .json => "json"
  | .console => "console"

/-- The renderer of a name; names are in lower case. -/
def ofName? : String → Option Renderer
  | "json" => some .json
  | "console" => some .console
  | _ => none

end Renderer

structure Settings where
  environment : String := "local"
  serviceName : String := "remote_config"
  logLevel : String := "info"
  renderer : Renderer := .json
  deriving DecidableEq

structure SettingSources where
  /-- Values of the caller, under the names of settings. -/
  own : OrderedMap Json.Value := .empty
  /-- The variables of the environment. -/
  environment : OrderedMap String := .empty
  /-- The text of the file. -/
  file : String := ""

namespace SettingSources

/-- What stands before the name of a setting in the name of a variable. -/
def variableStart : String := "remote_config_"

/-- The last value under a name in any letter case. -/
def lastNamed? {α : Type} (name : String) (values : List (String × α)) : Option α :=
  Field.last? name (values.map fun (k, v) => (k.toLower, v))

/-- The first value under a name in any letter case. -/
def firstNamed? {α : Type} (name : String) (values : List (String × α)) : Option α :=
  lastNamed? name values.reverse

def fileVariables (s : SettingSources) : FileVariables :=
  Assignment.resolveAll s.environment (assignments s.file)

/-- The text of a variable in the file; a last spelling without a text hides the others. -/
def inFile? (s : SettingSources) (name : String) : Option String :=
  (lastNamed? name s.fileVariables.entries).join

def find? (s : SettingSources) (name : String) : Option Json.Value :=
  let long := variableStart ++ name
  ((firstNamed? name s.own.entries).or ((lastNamed? long s.environment.entries).map .string)).or
    ((s.inFile? long).map .string)

/-- A setting that is found, or its default. -/
def setting {α : Type} (s : SettingSources) (name : String) (default : α)
    (read : Json.Value → Checked α) : Checked α :=
  match s.find? name with
  | none => .valid default
  | some v => (read v).under (.key name)

def renderer : Json.Value → Checked Renderer
  | .string s =>
    match Renderer.ofName? s with
    | some r => .valid r
    | none => .fail .otherWord
  | _ => .fail .notString

/-- All settings, or everything that is wrong with them. -/
def settings (s : SettingSources) : Checked Settings :=
  (fun environment serviceName logLevel renderer =>
    ⟨environment, serviceName, logLevel, renderer⟩) <$>
    s.setting "env" "local" Reader.string <*>
    s.setting "service_name" "remote_config" Reader.string <*>
    s.setting "log_level" "info" Reader.string <*>
    s.setting "log_renderer" .json renderer

/-- The settings that were found before, or else those found now, which count from then on. -/
def shared (known : Option Settings) (s : SettingSources) : Checked Settings :=
  match known with
  | some settings => .valid settings
  | none => s.settings

end SettingSources

end TargetedConfig
