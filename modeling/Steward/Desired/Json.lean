/-
Declared instances in the data format.
-/
import Steward.Config.Writer
import Steward.Desired

namespace Steward

open Json (ofOption)

def CloneSource.toJson (c : CloneSource) : Json :=
  .object [("node", ofOption .string c.node), ("vm_id", numberJson c.id),
    ("datastore_id", ofOption .string c.datastore), ("full", .bool c.full), ("retries", numberJson c.retries)]

def OperatingSystem.toJson (s : OperatingSystem) : Json :=
  .object [("os_type", .string s.osType), ("template_file_id", ofOption .string s.template)]

def Desired.toJson (rate : Binary64 → Json) (d : Desired) : Json :=
  .object
    [("node", .string d.node), ("vm_id", ofOption numberJson d.id), ("kind", .string d.kind.name),
      ("pool_id", ofOption .string d.pool), ("clone", ofOption CloneSource.toJson d.clone),
      ("operating_system", ofOption OperatingSystem.toJson d.system), ("config", d.config.toJson rate)]

end Steward
