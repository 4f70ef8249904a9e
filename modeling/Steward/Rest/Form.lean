/-
Requests as the forms that are sent. Keys for logging in are percent-encoded on top of the encoding of
the form, and come back that way.
-/
import Steward.Request
import Steward.Steps
import Steward.Text.Percent

namespace Steward

namespace Rest

abbrev Form := List (String × String)

def keysParam : String := "sshkeys"

def encodeKeys (s : String) : String := Text.percentEncode ['-', '_', '.', '~'] s

def encodeParams (params : Dict String) : Form :=
  params.entries.map fun (key, value) => (key, if key = keysParam then encodeKeys value else value)

/-- A configuration as it was answered, with its keys in plain text. -/
def decodeParams (remote : Remote) : Remote :=
  match Dict.get? remote keysParam with
  | some (.string keys) => Dict.insert remote keysParam (.string (Text.percentDecode keys))
  | _ => remote

/-- Whole seconds, at least one. -/
def timeoutField (timeout : Duration) : String × String :=
  ("timeout", Text.decimal (max (Duration.wholeSeconds timeout) 1))

/-- Only virtual machines take a timeout for hard changes of power. -/
def hardPowerForm (id : Identity) (timeout : Duration) : Form :=
  match id.kind with
  | .vm => [timeoutField timeout]
  | .container => []

def shutdownForm (force : Bool) (timeout : Duration) : Form := [("forceStop", flagDigit force), timeoutField timeout]

end Rest

open PropertyString (optional)
open Rest (Form)

def CreateRequest.form (r : CreateRequest) (id : UInt32) : Form :=
  ("vmid", Text.decimal id.toNat) :: Rest.encodeParams r.params

def CloneRequest.form (r : CloneRequest) (kind : Kind) (id : UInt32) : Form :=
  [("newid", Text.decimal id.toNat), ("full", flagDigit r.full)] ++ optional kind.nameKey r.name ++
    optional "description" r.description ++ optional "pool" r.pool ++ optional "storage" r.datastore

def UpdateRequest.form (r : UpdateRequest) : Form :=
  Rest.encodeParams r.set ++ if r.delete.isEmpty then [] else [("delete", Text.join "," r.delete)]

/-- What a disk is called in calls, by the kind of instance. -/
def Kind.diskKey : Kind → String
  | .vm => "disk"
  | .container => "volume"

def MoveDiskRequest.form (r : MoveDiskRequest) (kind : Kind) : Form :=
  [(kind.diskKey, r.interface), ("storage", r.datastore), ("delete", flagDigit r.deleteOriginal)]

def ResizeDiskRequest.form (r : ResizeDiskRequest) : Form :=
  [("disk", r.interface), ("size", Text.decimal r.sizeGib.toNat ++ "G")]

/-- Containers cannot move while they run; a running one is restarted. -/
def MigrateRequest.form (r : MigrateRequest) (kind : Kind) : Form :=
  ("target", r.node) ::
    match kind with
    | .vm => [("online", flagDigit r.online), ("with-local-disks", flagDigit r.withLocalDisks)]
    | .container => if r.online then [("restart", "1")] else []

end Steward
