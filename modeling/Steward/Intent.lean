/-
The steps by which an instance is brought to its declared state: what is done, why, and what must have
succeeded before.
-/
import Steward.Text.Unsigned

namespace Steward

inductive Operation
  /-- Set a parameter; `field` is what the user calls it. -/
  | update (field param value : String)
  | delete (param : String)
  | moveDisk (interface datastore : String) (deleteOriginal : Bool)
  | resizeDisk (interface : String) (sizeGib : UInt64)
  | reboot
  | shutdown
  | start
  | stop
  | migrate (node : String)
  deriving DecidableEq, Repr

namespace Operation

/-- Changes of the configuration, several of which go into one call. -/
def isConfigChange : Operation → Bool
  | update .. | delete .. => true
  | _ => false

def isDiskOperation : Operation → Bool
  | moveDisk .. | resizeDisk .. => true
  | _ => false

def isLifecycle : Operation → Bool
  | reboot | shutdown | start | stop | migrate .. => true
  | _ => false

def toText : Operation → String
  | update field param value => "update " ++ field ++ " (" ++ param ++ "=" ++ value ++ ")"
  | delete param => "delete " ++ param
  | moveDisk interface datastore _ => "move disk " ++ interface ++ " to " ++ datastore
  | resizeDisk interface size => "resize disk " ++ interface ++ " to " ++ Text.decimal size.toNat ++ "G"
  | reboot => "reboot"
  | shutdown => "shutdown"
  | start => "start"
  | stop => "stop"
  | migrate node => "migrate to " ++ node

/-- The parameter that a change of the configuration touches. -/
def param? : Operation → Option String
  | update _ param _ | delete param => some param
  | _ => none

end Operation

inductive Reason
  | drift
  | create
  /-- A slot beyond the declared ones. -/
  | prune
  /-- A slot declared to hold nothing. -/
  | disabled
  | cleared
  | cloudInitDetach
  | cloudInitAttach
  | diskMigration
  | diskGrowth
  | nodeChange
  /-- Opens or closes a time in which the instance is stopped. -/
  | stoppedWindow
  | powerState
  | restartRequired
  deriving DecidableEq, Repr

def Reason.toText : Reason → String
  | drift => "drift"
  | create => "create"
  | prune => "prune"
  | disabled => "disabled"
  | cleared => "cleared"
  | cloudInitDetach => "cloud-init detach"
  | cloudInitAttach => "cloud-init attach"
  | diskMigration => "disk migration"
  | diskGrowth => "disk growth"
  | nodeChange => "node change"
  | stoppedWindow => "stopped window"
  | powerState => "power state"
  | restartRequired => "restart required"

/-- What must have succeeded before a step. -/
inductive Dependency
  | nothing
  /-- The shutdown that opened the stopped window. -/
  | stoppedWindow
  /-- Every change of the configuration so far. -/
  | configApplied
  deriving DecidableEq, Repr

structure Intent where
  op : Operation
  reason : Reason
  dependency : Dependency
  deriving DecidableEq, Repr

namespace Intent

def update (field param value : String) (reason : Reason) : Intent := ⟨.update field param value, reason, .nothing⟩

def delete (param : String) (reason : Reason) : Intent := ⟨.delete param, reason, .nothing⟩

def dependingOn (i : Intent) (dependency : Dependency) : Intent := { i with dependency := dependency }

def toText (i : Intent) : String := i.op.toText ++ " [" ++ i.reason.toText ++ "]"

end Intent

/-- The steps of a pass in their order, and whether a restart is owed to some of them. -/
structure Plan where
  intents : List Intent
  rebootRequired : Bool
  deriving DecidableEq, Repr

namespace Plan

def empty : Plan := ⟨[], false⟩

def hasChanges (p : Plan) : Bool := !p.intents.isEmpty

def push (p : Plan) (i : Intent) : Plan := { p with intents := p.intents ++ [i] }

def append (p : Plan) (is : List Intent) : Plan := { p with intents := p.intents ++ is }

/-- How many steps there are of each kind. -/
structure Summary where
  updates : Nat
  deletes : Nat
  disks : Nat
  lifecycle : Nat
  deriving DecidableEq, Repr

def countWhere (p : Plan) (f : Operation → Bool) : Nat := p.intents.countP fun i => f i.op

def isUpdate : Operation → Bool
  | .update .. => true
  | _ => false

def isDelete : Operation → Bool
  | .delete .. => true
  | _ => false

def summary (p : Plan) : Summary where
  updates := p.countWhere isUpdate
  deletes := p.countWhere isDelete
  disks := p.countWhere Operation.isDiskOperation
  lifecycle := p.countWhere Operation.isLifecycle

def Summary.toText (s : Summary) : String :=
  Text.decimal s.updates ++ " to update, " ++ Text.decimal s.deletes ++ " to delete, " ++
    Text.decimal s.disks ++ " disk operations, " ++ Text.decimal s.lifecycle ++ " lifecycle operations"

end Plan

end Steward
