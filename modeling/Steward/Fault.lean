/-
What is wrong with an instance document or with a text that describes a device: the cause of each
refusal, and its wording in one place.
-/
import Steward.Text.Unsigned

namespace Steward

/-- An option of a disk that a container does not have. -/
inductive DiskOption
  | fileId | fileFormat | cache | discard | ssd | iothread | speed
  deriving DecidableEq, Repr

def DiskOption.name : DiskOption → String
  | fileId => "file_id"
  | fileFormat => "file_format"
  | cache => "cache"
  | discard => "discard"
  | ssd => "ssd"
  | iothread => "iothread"
  | speed => "speed"

/-- Why a text describes no device. -/
inductive Malformed
  | size | volume | vlan | rate | mtu | model | interfaceName
  deriving DecidableEq, Repr

def Malformed.reason : Malformed → String
  | size => "expected a number with an optional K/M/G/T suffix"
  | volume => "missing volume"
  | vlan => "expected a VLAN id"
  | rate => "expected MB/s"
  | mtu => "expected a number"
  | model => "missing network model"
  | interfaceName => "missing interface name"

inductive Fault
  | nodeMissing
  | idOutOfRange (id : UInt32)
  | systemMissing
  | templateMissing
  | firmwareDiskInContainer
  | severalRootDisks (count : Nat)
  | rootDiskName (name : String)
  | rootDiskOption (option : DiskOption)
  | tooManyNetworks (count : Nat)
  | containerNetworkModel (model : String)
  | cloudInitBus (interface : String)
  | containerCloudInitPlace
  | containerAccountName
  | unknownInterface (name : String)
  | repeatedInterface (name : String)
  | malformed (key value : String) (why : Malformed)
  deriving DecidableEq, Repr

namespace Fault

/-- The cause of a refusal of a whole document, in words. -/
def cause : Fault → String
  | nodeMissing => "node_name is required"
  | idOutOfRange id => "vm_id " ++ Text.decimal id.toNat ++ " is outside the accepted range 100-999999999"
  | systemMissing => "operating_system block is required when creating an instance without clone"
  | templateMissing => "operating_system.template_file_id is required when creating a container"
  | firmwareDiskInContainer => "efi_disk and tpm_state are not available for containers"
  | severalRootDisks count => "a container takes a single rootfs disk, got " ++ Text.decimal count
  | rootDiskName name => "container disk interface must be rootfs, got " ++ name
  | rootDiskOption option => "disk option " ++ option.name ++ " is not available for containers"
  | tooManyNetworks count => "at most 32 network devices are supported, got " ++ Text.decimal count
  | containerNetworkModel model => "container network devices are veth, got model " ++ model
  | cloudInitBus interface =>
    "cloud-init drive cannot use " ++ interface ++ ": virtio does not support cdrom media"
  | containerCloudInitPlace =>
    "initialization.interface and initialization.datastore_id are not available for containers"
  | containerAccountName => "a container account is always root; drop user_account.username"
  | unknownInterface name => name
  | repeatedInterface name => name
  | malformed _ value why => value ++ " (" ++ why.reason ++ ")"

def message : Fault → String
  | f@(unknownInterface _) => "Invalid interface name: " ++ f.cause
  | f@(repeatedInterface _) => "Interface declared more than once: " ++ f.cause
  | f@(malformed key _ _) => "Invalid value for `" ++ key ++ "`: " ++ f.cause
  | f => "Invalid configuration: " ++ f.cause

end Fault

end Steward
