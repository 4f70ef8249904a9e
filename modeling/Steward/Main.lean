/-
The program. It replays a recorded session: each line of standard input is a reply of the hypervisor's
web interface, in the order in which they are used. Its files are written in the data format.
-/
import Steward.Command.Run
import Steward.Rest.Recording
import Steward.UserSettings.Plain

namespace Steward

/-- What is at a path; none if nothing is there. -/
def fileAt? (path : String) : IO (Option FileEntry) := do
  try return some (.text (← IO.FS.readFile path))
  catch
    | .noFileOrDirectory .. => return none
    | _ => return some .directory

/-- The document that a command reads. -/
def Command.file? : Command → Option String
  | .plan file _ | .apply file => some file
  | _ => none

/-- Whether a command asks the hypervisor for anything. -/
def Command.isRemote : Command → Bool
  | .plan .. | .apply _ | .inspect _ => true
  | .version | .help => false

def variableNames : List String :=
  ["PVEFLOW_CONFIG_PATH", "PROXMOX_VE_ENDPOINT", "PROXMOX_VE_API_TOKEN", "PROXMOX_VE_INSECURE"]

/-- The variables that are set, of those that count. -/
def givenVariables : IO (Dict String) := do
  let values ← variableNames.mapM fun name => return (name, ← IO.getEnv name)
  return Dict.ofList (values.filterMap fun (name, value) => value.map fun v => (name, v))

/-- Where the user keeps settings of programs. -/
def userConfigDirectory : IO (Option String) := do
  match ← IO.getEnv "XDG_CONFIG_HOME" with
  | some directory => return some directory
  | none => return (← IO.getEnv "HOME").map fun home => home ++ "/.config"

/-- The surroundings of a run, with the files that it may read. -/
def surroundings (file? : Option String) : IO Environment := do
  let env : Environment :=
    { reader := .plain
      files := ⟨[]⟩
      vars := ← givenVariables
      workingDirectory := (← IO.currentDir).toString
      configDirectory := ← userConfigDirectory }
  let paths := (env.settingsPaths ++ file?.toList).map (pathIn env.workingDirectory)
  let entries ← paths.mapM fun path => return (path, ← fileAt? path)
  return { env with files := .ofList (entries.filterMap fun (path, entry?) => entry?.map fun e => (path, e)) }

/-- The replies on standard input, up to the first line that is none. -/
partial def recordedReplies (input : IO.FS.Stream) : IO (List Rest.Reply) := do
  match Rest.Reply.ofText? (← input.getLine) with
  | some reply => return reply :: (← recordedReplies input)
  | none => return []

end Steward

def main (words : List String) : IO UInt32 := do
  let command? := (Steward.Command.ofWords words).toOption
  let env ← Steward.surroundings (command?.bind Steward.Command.file?)
  let replies ←
    if command?.any Steward.Command.isRemote then Steward.recordedReplies (← IO.getStdin) else pure []
  let (printed, _) := Steward.runWords env words (.replaying replies)
  IO.print printed.output
  IO.eprint printed.errors
  return printed.code
