/-
Where settings come from: the first of a few files that exists, and variables of the environment, which
count more than the file. In which language files are written is left to a reader.
-/
import Steward.Document
import Steward.UserSettings

namespace Steward

/-- How the texts of files are read; none if they are nothing of the kind. -/
structure Reader where
  settings : String → Option UserSettings
  document : String → Option Document

/-- What surrounds a run of the program. -/
structure Environment where
  reader : Reader
  files : Files
  /-- The variables that are set. -/
  vars : Dict String
  workingDirectory : String
  /-- Where a user keeps settings of programs. -/
  configDirectory : Option String

namespace Environment

variable (env : Environment)

/-- A file by its path as seen from the working directory; the empty path is none. -/
def read (path : String) : Except FileFault String :=
  if path.isEmpty then .error .missing else env.files.read (pathIn env.workingDirectory path)

def hasPath (path : String) : Bool := !path.isEmpty && env.files.hasPath (pathIn env.workingDirectory path)

/-- The files in which settings are looked for, the first ones first. -/
def settingsPaths : List String :=
  (env.vars.get? "PVEFLOW_CONFIG_PATH").toList ++
    ["pveflow.local.yaml", "pveflow.yaml"].map (pathIn env.workingDirectory) ++
    env.configDirectory.toList.map fun directory => pathIn directory "pveflow/config.yaml"

/-- The file that settings are read from. -/
def settingsPath : Except SettingsError String :=
  match env.settingsPaths.find? env.hasPath with
  | some path => .ok path
  | none => .error .fileNotFound

end Environment

/-- A flag as a variable writes it. -/
def flagOfVariable? (value : String) : Option Bool :=
  let word := (Text.trimmed value).map Char.toLower
  if ["1", "true", "yes", "on"].contains word then some true
  else if ["0", "false", "no", "off", ""].contains word then some false
  else none

namespace UserSettings

def insecureVariable : String := "PROXMOX_VE_INSECURE"

/-- Settings under variables that say how the hypervisor is reached. -/
def under (vars : Dict String) (s : UserSettings) : Except SettingsError UserSettings :=
  let endpoint := vars.get? "PROXMOX_VE_ENDPOINT" <|> s.access.endpoint
  let token := vars.get? "PROXMOX_VE_API_TOKEN" <|> s.access.token
  match vars.get? insecureVariable with
  | none => .ok { s with access := ⟨endpoint, token, s.access.insecure⟩ }
  | some value =>
    match flagOfVariable? value with
    | some insecure => .ok { s with access := ⟨endpoint, token, insecure⟩ }
    | none => .error (.invalidVariable insecureVariable value)

/-- The settings of a file. -/
def ofFile (env : Environment) (path : String) : Except SettingsError UserSettings := do
  let text ← (env.read path).mapError .unreadable
  match env.reader.settings text with
  | some s => .ok s
  | none => .error (.unparsable path)

/-- The settings of an environment; where there is no file, nothing is set but by variables. -/
def load (env : Environment) : Except SettingsError UserSettings :=
  match env.settingsPath with
  | .ok path => do (← ofFile env path).under env.vars
  | .error _ => ({} : UserSettings).under env.vars

end UserSettings

end Steward
