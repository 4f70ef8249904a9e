/-
Requests in the data format.
-/
import Steward.Config.Reader
import Steward.Config.Writer
import Steward.Request

namespace Steward

open Json

def Dict.textsJson (d : Dict String) : Json := .object (d.map Json.string).entries

namespace CreateRequest

def toJson (c : CreateRequest) : Json :=
  .object [("kind", .string c.kind.name), ("vm_id", ofOption numberJson c.id), ("params", c.params.textsJson)]

def ofJson? (j : Json) : Option CreateRequest := do
  let r ← completeRecord? ["kind", "vm_id", "params"] j
  some
    { kind := ← required? r "kind" Kind.ofJson?
      id := ← optional? r "vm_id" uint32?
      params := ← required? r "params" (Dict.ofJson? text?) }

end CreateRequest

namespace CloneRequest

def toJson (c : CloneRequest) : Json :=
  .object [("new_id", ofOption numberJson c.newId), ("name", ofOption .string c.name),
    ("description", ofOption .string c.description), ("pool_id", ofOption .string c.pool),
    ("target_datastore", ofOption .string c.datastore), ("full", .bool c.full)]

def ofJson? (j : Json) : Option CloneRequest := do
  let r ← completeRecord? ["new_id", "name", "description", "pool_id", "target_datastore", "full"] j
  some
    { newId := ← optional? r "new_id" uint32?
      name := ← optional? r "name" text?
      description := ← optional? r "description" text?
      pool := ← optional? r "pool_id" text?
      datastore := ← optional? r "target_datastore" text?
      full := ← required? r "full" flag? }

end CloneRequest

namespace UpdateRequest

def toJson (u : UpdateRequest) : Json := .object [("set", u.set.textsJson), ("delete", textsJson u.delete)]

def ofJson? (j : Json) : Option UpdateRequest := do
  let r ← completeRecord? ["set", "delete"] j
  some { set := ← required? r "set" (Dict.ofJson? text?), delete := ← required? r "delete" (list? text?) }

end UpdateRequest

namespace MoveDiskRequest

def toJson (m : MoveDiskRequest) : Json :=
  .object [("interface", .string m.interface), ("target_datastore", .string m.datastore),
    ("delete_original", .bool m.deleteOriginal)]

def ofJson? (j : Json) : Option MoveDiskRequest := do
  let r ← completeRecord? ["interface", "target_datastore", "delete_original"] j
  some
    { interface := ← required? r "interface" text?
      datastore := ← required? r "target_datastore" text?
      deleteOriginal := ← required? r "delete_original" flag? }

end MoveDiskRequest

namespace ResizeDiskRequest

def toJson (m : ResizeDiskRequest) : Json :=
  .object [("interface", .string m.interface), ("size_gib", .number (.natural m.sizeGib))]

def ofJson? (j : Json) : Option ResizeDiskRequest := do
  let r ← completeRecord? ["interface", "size_gib"] j
  some { interface := ← required? r "interface" text?, sizeGib := ← required? r "size_gib" uint64? }

end ResizeDiskRequest

namespace MigrateRequest

def toJson (m : MigrateRequest) : Json :=
  .object [("target_node", .string m.node), ("with_local_disks", .bool m.withLocalDisks), ("online", .bool m.online)]

def ofJson? (j : Json) : Option MigrateRequest := do
  let r ← completeRecord? ["target_node", "with_local_disks", "online"] j
  some
    { node := ← required? r "target_node" text?
      withLocalDisks := ← required? r "with_local_disks" flag?
      online := ← required? r "online" flag? }

end MigrateRequest

end Steward
