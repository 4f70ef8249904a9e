/-
Instances and where they live: virtual machines and containers are kept in two collections of a node,
under one numbering.
-/
import Steward.Text.Unsigned

namespace Steward

inductive Kind
  | vm
  | container
  deriving DecidableEq, Repr

/-- The name of the collection that holds the instances of a kind. -/
def Kind.collection : Kind → String
  | vm => "qemu"
  | container => "lxc"

def Kind.name : Kind → String
  | vm => "vm"
  | container => "container"

structure Identity where
  node : String
  id : UInt32
  kind : Kind
  deriving DecidableEq, Repr

namespace Identity

def toText (i : Identity) : String := i.node ++ "/" ++ i.kind.collection ++ "/" ++ Text.decimal i.id.toNat

/-- The same instance on another node. -/
def onNode (i : Identity) (node : String) : Identity := { i with node := node }

end Identity

end Steward
