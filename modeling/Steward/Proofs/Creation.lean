/-
What a new instance is like. What is asked for when an instance is created is stored, volumes being allocated
for its drives, and its settings and network devices are read back as they were declared. Of the comparisons
with them, that of the template alone may ask for a step, where a container is to become one.
-/
import Mathlib
import Steward.Plan.Pass
import Steward.Proofs.CreateRequest
import Steward.Proofs.Drive

namespace Steward

open PropertyString

/-! ## Instances that can be created without loss -/

/-- What keeps apart from others with a blank between them. -/
def IsToken (s : String) : Prop := s ≠ "" ∧ ∀ c ∈ s.toList, Text.isBlank c = false

/-- What keeps apart from others with an end of line between them. -/
def IsLine (s : String) : Prop := s ≠ "" ∧ '\n' ∉ s.toList

/-- A slot's name without leading zeros. -/
def IsPlainSlot (name : String) : Prop := ∀ slot ∈ parseInterface? name, name = slot.1.slotName slot.2

instance (s : String) : Decidable (IsToken s) :=
  have := List.decidableBAll (fun c => Text.isBlank c = false) s.toList
  inferInstanceAs (Decidable (_ ∧ _))

instance (s : String) : Decidable (IsLine s) := inferInstanceAs (Decidable (_ ∧ _))

instance (name : String) : Decidable (IsPlainSlot name) :=
  inferInstanceAs (Decidable (∀ slot ∈ parseInterface? name, name = slot.1.slotName slot.2))

/-- First-boot settings that are read back as they are written. -/
structure CloudInit.Creatable (kind : Kind) (init : CloudInit) : Prop where
  datastore : kind = .vm → IsWord init.datastore ∧ ':' ∉ init.datastore.toList
  interface : ∀ slot ∈ init.interface, IsPlainSlot slot
  servers : ∀ resolver ∈ init.resolver, ∀ s ∈ resolver.servers, IsToken s
  keys : ∀ account ∈ init.account, ∀ s ∈ account.keys, IsLine s
  addresses : init.ipConfigs.length ≤ Remote.maxIpConfigs ∧ ∀ ip ∈ init.ipConfigs, ip.Writable

/-- A configuration that is read back as it is asked for. -/
structure Config.Creatable (kind : Kind) (c : Config) : Prop where
  texts : c.Writable kind
  disks : ∀ disk ∈ c.disks.entries, IsPlainSlot disk.1 ∧ disk.2.Creatable
  init : ∀ init ∈ c.cloudInit, init.Creatable kind

instance (kind : Kind) (init : CloudInit) : Decidable (init.Creatable kind) :=
  decidable_of_iff
    ((kind = .vm → IsWord init.datastore ∧ ':' ∉ init.datastore.toList) ∧
      (∀ slot ∈ init.interface, IsPlainSlot slot) ∧
      (∀ resolver ∈ init.resolver, ∀ s ∈ resolver.servers, IsToken s) ∧
      (∀ account ∈ init.account, ∀ s ∈ account.keys, IsLine s) ∧
      init.ipConfigs.length ≤ Remote.maxIpConfigs ∧ ∀ ip ∈ init.ipConfigs, ip.Writable)
    ⟨fun ⟨h1, h2, h3, h4, h5⟩ => ⟨h1, h2, h3, h4, h5⟩, fun ⟨h1, h2, h3, h4, h5⟩ => ⟨h1, h2, h3, h4, h5⟩⟩

instance (kind : Kind) (c : Config) : Decidable (c.Creatable kind) :=
  decidable_of_iff
    (c.Writable kind ∧ (∀ disk ∈ c.disks.entries, IsPlainSlot disk.1 ∧ disk.2.Creatable) ∧
      ∀ init ∈ c.cloudInit, init.Creatable kind)
    ⟨fun ⟨h1, h2, h3⟩ => ⟨h1, h2, h3⟩, fun ⟨h1, h2, h3⟩ => ⟨h1, h2, h3⟩⟩

theorem mem_driveSlots_of_isPlainSlot {slot : String} (h : IsPlainSlot slot)
    (hp : (parseInterface? slot).isSome = true) :
    slot ∈ driveSlots := by
  obtain ⟨⟨bus, n⟩, hparse⟩ := Option.isSome_iff_exists.1 hp
  rw [h (bus, n) hparse]
  obtain ⟨b, hb, hfound⟩ := List.exists_of_findSome?_eq_some hparse
  obtain ⟨m, -, hm⟩ := Option.bind_eq_some_iff.1 hfound
  split at hm
  · cases hm
    exact List.mem_flatMap.2 ⟨bus, hb, List.mem_map.2 ⟨n, List.mem_range.2 (by omega), rfl⟩⟩
  · cases hm

variable {policy : Policy} {doc : Document} {desired : Desired} {id : UInt32} {params : Dict String}
    {status : Status}

theorem inPlace_of_creatable (hd : doc.desired policy = .ok desired)
    (hc : desired.config.Creatable desired.kind) :
    desired.InPlace where
  nics := (Document.config_declared hd).nics
  disks slot hslot := by
    obtain ⟨disk, hdisk⟩ := Option.isSome_iff_exists.1 (Dict.mem_keys_iff.1 hslot)
    obtain ⟨-, -, hcontainer, hvm⟩ := Document.disks_spec hd hdisk
    cases hk : desired.kind with
    | vm =>
      rcases hvm hk with hparse | rfl | rfl
      · exact List.mem_append_left _ (mem_driveSlots_of_isPlainSlot
          (hc.disks (slot, disk) (Dict.mem_entries_iff.2 hdisk)).1 hparse)
      · exact List.mem_append_right _ (by simp)
      · exact List.mem_append_right _ (by simp)
    | container => simp [Remote.driveKeys, hcontainer hk]
  drive hk want hw := by
    rw [Plan.targetSlot]
    cases hs : want.interface with
    | none => exact (by decide +kernel : CloudInit.defaultSlot ∈ driveSlots)
    | some slot =>
      exact mem_driveSlots_of_isPlainSlot ((hc.init want hw).interface slot hs)
        (Plan.declared_interface hd hk hw hs).1
  addresses want hw := (hc.init want hw).addresses.1

/-! ## What is stored of a request -/

namespace Desired

/-- How a network device is asked for. -/
def nicText (desired : Desired) (slot : Nat) (nic : Nic) : String :=
  match desired.kind with
  | .vm => nic.toText
  | .container => nic.toContainerText slot desired.addresses[slot]?

/-- The drive with the first-boot settings, in its slot. -/
def initDrive? (desired : Desired) (slot : String) : Option CloudInit :=
  match desired.kind with
  | .vm => desired.config.cloudInit.filter fun want => Plan.targetSlot want none = slot
  | .container => none

/-- How a drive is asked for. -/
def driveText? (desired : Desired) (slot : String) : Option String :=
  ((desired.config.disks.get? slot).map Disk.toText).or
    ((desired.initDrive? slot).map fun want => CloudInit.driveText want.datastore)

/-- A configuration in which a request for the instance `id` is stored: under each parameter what was asked
for, a volume being allocated for each drive. -/
structure StoredIn (desired : Desired) (id : UInt32) (remote : Remote) : Prop where
  common : ∀ key ∈ commonKeys desired.kind, remote.get? key = (lookup? desired.commonParams key).map .string
  hardware : desired.kind = .vm →
    ∀ key ∈ hardwareKeys, remote.get? key = (lookup? desired.vmHardwareParams key).map .string
  machine : desired.kind = .vm →
    ∀ key ∈ machineKeys, remote.get? key = (lookup? desired.vmMachineParams key).map .string
  swap : desired.kind = .container →
    remote.get? "swap" = (numberText? desired.config.memory.value.floating.value).map .string
  template : desired.kind = .container → remote.get? "template" = none
  nics : ∀ slot < maxNics, remote.get? (nicSlot slot) =
    ((desired.config.nics.value[slot]?.filter Nic.enabled).map (desired.nicText slot)).map .string
  drives : ∀ slot ∈ Remote.driveKeys desired.kind, ∃ config,
    remote.get? slot = (desired.driveText? slot).map fun text => .string (Lab.allocated id config text)
  init : desired.kind = .vm → ∀ key ∈ initKeys,
    remote.get? key = (desired.config.cloudInit.bind fun want => lookup? (initParams want) key).map .string
  resolver : desired.kind = .container → ∀ key ∈ ["searchdomain", "nameserver"],
    remote.get? key = (lookup? desired.containerInitParams key).map .string

theorem isDriveKey_of_mem (kind : Kind) : ∀ slot ∈ Remote.driveKeys kind, Lab.isDriveKey slot = true := by
  cases kind <;> decide +kernel

theorem isDriveKey_nicKeys : ∀ key ∈ nicKeys, Lab.isDriveKey key = false := by decide +kernel

theorem isDriveKey_vmKeys : ∀ key ∈ vmSettingKeys ++ initKeys, Lab.isDriveKey key = false := by decide +kernel

theorem isDriveKey_containerKeys : ∀ key ∈ "template" :: containerSettingKeys,
    Lab.isDriveKey key = false := by
  decide +kernel

variable {desired : Desired} {params : Dict String}

theorem storedIn_of_vmParams (h : desired.vmParams = .ok params) (hk : desired.kind = .vm)
    (hp : desired.InPlace) (id : UInt32) : desired.StoredIn id (Lab.putAll id .empty params) := by
  obtain ⟨hcommon, hhardware, hmachine⟩ := lookup?_vmSettings hk
  have hsetting {key : String} (hkey : key ∈ vmSettingKeys) :
      (Lab.putAll id .empty params).get? key = (lookup? desired.vmSettings key).map .string := by
    rw [Lab.get?_putAll_of_not_drive id params (isDriveKey_vmKeys key (List.mem_append_left _ hkey)),
      get?_vmSetting h hk hp hkey]
  constructor
  case common =>
    intro key hkey
    rw [hk] at hkey
    rw [hsetting (by simp [vmSettingKeys, hkey]), hcommon key hkey]
  case hardware =>
    intro _ key hkey
    rw [hsetting (by simp [vmSettingKeys, hkey]), hhardware key hkey]
  case machine =>
    intro _ key hkey
    rw [hsetting (by simp [vmSettingKeys, hkey]), hmachine key hkey]
  case nics =>
    intro slot hslot
    have hkey : nicSlot slot ∈ nicKeys := List.mem_map_of_mem (List.mem_range.2 hslot)
    have htext : desired.nicText slot = Nic.toText := by
      funext nic
      rw [nicText, hk]
    rw [Lab.get?_putAll_of_not_drive id params (isDriveKey_nicKeys _ hkey), get?_vmNic h hk hp hslot, htext]
  case drives =>
    intro slot hslot
    obtain ⟨config, hconfig⟩ := Lab.get?_putAll id params slot
    rw [isDriveKey_of_mem _ slot hslot] at hconfig
    have hinit : desired.initDrive? slot = desired.config.cloudInit.filter fun want =>
        Plan.targetSlot want none = slot := by
      rw [initDrive?, hk]
    refine ⟨config, ?_⟩
    rw [hconfig, get?_vmDrive h hk hp (hk ▸ hslot), driveText?, hinit]
    rfl
  case init =>
    intro _ key hkey
    rw [Lab.get?_putAll_of_not_drive id params (isDriveKey_vmKeys key (List.mem_append_right _ hkey)),
      get?_vmInit h hk hp hkey]
  all_goals exact fun hc => by rw [hk] at hc; cases hc

theorem storedIn_of_containerParams (h : desired.containerParams = .ok params)
    (hk : desired.kind = .container)
    (hp : desired.InPlace) (id : UInt32) : desired.StoredIn id (Lab.putAll id .empty params) := by
  obtain ⟨template, hget⟩ := get?_containerSetting h hk hp
  obtain ⟨hcommon, hswap, hinit⟩ := lookup?_containerSettings hk template
  have hsetting {key : String} (hkey : key ∈ containerSettingKeys) : (Lab.putAll id .empty params).get? key =
      ((lookup? desired.containerInitParams key).or
        (lookup? (desired.containerSettings template) key)).map .string := by
    rw [Lab.get?_putAll_of_not_drive id params
      (isDriveKey_containerKeys key (List.mem_cons_of_mem _ hkey)), hget key hkey]
  constructor
  case common =>
    intro key hkey
    rw [hk] at hkey
    rw [hsetting (by simp [containerSettingKeys, hkey]), hcommon key hkey]
  case swap =>
    have hnone := lookup?_eq_none_of_keys (keys_containerInitParams desired).subset
      (by decide : "swap" ∉ containerInitKeys)
    intro _
    rw [hsetting (by simp [containerSettingKeys]), hnone, Option.none_or, hswap]
  case template =>
    intro _
    rw [Lab.get?_putAll_of_not_drive id params (isDriveKey_containerKeys _ (by simp)),
      get?_containerTemplate h hk hp]
    rfl
  case nics =>
    intro slot hslot
    have hkey : nicSlot slot ∈ nicKeys := List.mem_map_of_mem (List.mem_range.2 hslot)
    have htext : desired.nicText slot = fun nic => nic.toContainerText slot desired.addresses[slot]? := by
      funext nic
      rw [nicText, hk]
    rw [Lab.get?_putAll_of_not_drive id params (isDriveKey_nicKeys _ hkey),
      get?_containerNic h hk hp hslot, htext]
  case drives =>
    intro slot hslot
    obtain ⟨config, hconfig⟩ := Lab.get?_putAll id params slot
    rw [isDriveKey_of_mem _ slot hslot] at hconfig
    rw [hk] at hslot
    obtain rfl : slot = rootSlot := by simpa [Remote.driveKeys] using hslot
    have hdrive : desired.initDrive? rootSlot = none := by rw [initDrive?, hk]
    refine ⟨config, ?_⟩
    rw [hconfig, get?_containerRoot h hk hp, driveText?, hdrive, Option.map_none, Option.or_none]
    rfl
  case resolver =>
    intro _ key hkey
    have hmem : key ∈ containerInitKeys :=
      (by decide : ∀ key ∈ ["searchdomain", "nameserver"], key ∈ containerInitKeys) key hkey
    rw [hsetting (by simp [containerSettingKeys, hmem]), hinit key hmem, Option.or_none]
  all_goals exact fun hc => by rw [hk] at hc; cases hc

/-- What was asked for is stored. -/
theorem storedIn_of_createRequest {request : CreateRequest} (h : desired.createRequest = .ok request)
    (hp : desired.InPlace) (id : UInt32) : desired.StoredIn id (Lab.putAll id .empty request.params) := by
  obtain ⟨params, hparams, rfl⟩ := Except.map_eq_ok_iff.1 h
  cases hk : desired.kind with
  | vm =>
    rw [hk] at hparams
    exact storedIn_of_vmParams hparams hk hp id
  | container =>
    rw [hk] at hparams
    exact storedIn_of_containerParams hparams hk hp id

end Desired

/-! ## Settings -/

/-- The step by which a container becomes a template, which no request for a container asks for. -/
def Desired.templateStep? (desired : Desired) : Option Intent :=
  if desired.kind = .container ∧ desired.config.template.value = true ∧
    desired.config.template.isPolicy = false then some (.update "template" "template" "1" .drift)
  else none

/-- A comparison is satisfied with what it would write itself. -/
theorem stepIn_rule_eq_none {α : Type} [DecidableEq α] {ctx : DiffContext} {field param : String}
    {restart : Bool}
    {want : Setting α} {read : Option Json → Setting α} {encode : α → Option String} {remote : Remote}
    {value : Option String}
    (hget : remote.get? param = value.map .string) (hvalue : value = encode want.value)
    (hread : (read ((encode want.value).map .string)).value = want.value) :
    (ctx.rule field param restart want read encode).stepIn remote = none := by
  rw [ParamRule.stepIn]
  exact DiffContext.step_rule_eq_none (by rw [← hread, ← hvalue, ← hget]; rfl)

theorem Setting.isExplicit_or_isPolicy_declared {α : Type} (written : Option α) (default : α) :
    (Setting.declared written default).isExplicit = true ∨ (Setting.declared written default).isPolicy =
      true := by
  cases written with
  | none => exact .inr rfl
  | some value => exact .inl rfl

namespace Plan

variable {policy : Policy} {doc : Document} {desired : Desired} {id : UInt32} {remote : Remote}
    {status : Status}
  {observed : Observed} {copied : Bool}

/-- The architecture is sent only if the user wrote one; else whatever is reported is taken for it. -/
theorem stepIn_architecture_eq_none {ctx : DiffContext} {want : Setting String} {field : String}
    {restart : Bool} (ho : want.isExplicit = true ∨ want.isPolicy = true)
    (hget : remote.get? "arch" = (if want.isExplicit then nonEmpty? want.value else none).map .string) :
    (ctx.rule field "arch" restart want (Remote.readText "") nonEmpty?).stepIn remote = none := by
  cases he : want.isExplicit with
  | true =>
    rw [he, if_pos rfl] at hget
    exact stepIn_rule_eq_none hget rfl (Remote.readText_nonEmpty _)
  | false =>
    have hpolicy : want.isPolicy = true := ho.resolve_left (by simp [he])
    rw [he] at hget
    have hnone : remote.get? "arch" = none := hget
    rw [ParamRule.stepIn]
    refine Comparison.intent?_eq_none_iff.2 ?_
    change (ctx.differs want (Remote.readText "" (remote.get? "arch"))) = false
    simp [hnone, DiffContext.differs, Setting.differsFrom, hpolicy, Remote.readText, Setting.reported,
      Setting.isHypervisor]

theorem general_created (hs : desired.StoredIn id remote) (hd : desired.config.Declared desired.kind)
    (hw : desired.config.Writable desired.kind) :
    ∀ r ∈ generalRules ⟨id, desired.kind, copied⟩ desired.config, r.stepIn remote = none := by
  simp only [generalRules, List.forall_mem_cons]
  refine ⟨stepIn_rule_eq_none (hs.common _ (by simp [Desired.commonKeys])) ?_ (Remote.readText_nonEmpty _),
    stepIn_rule_eq_none (hs.common "description" ?_) ?_ (Remote.readDescription_nonEmpty hd.description),
    stepIn_rule_eq_none (hs.common "tags" ?_) ?_ (Remote.readTags_tagsText hw.tags),
    stepIn_rule_eq_none (hs.common "onboot" ?_) ?_ (Remote.readFlag_some _ _),
    stepIn_rule_eq_none (hs.common "protection" ?_) ?_ (Remote.readFlag_some _ _),
    stepIn_rule_eq_none (hs.common "startup" ?_) ?_ (Remote.readStartup_startupText hd.startup), by simp⟩
  all_goals
    simp only [Desired.commonKeys, Desired.commonParams]
    cases desired.kind <;> simp [lookup?_append, lookup?_cons, Kind.nameKey, flagText?]

theorem cpu_created (hs : desired.StoredIn id remote) (hw : desired.config.Writable desired.kind)
    (ha : desired.config.cpu.value.architecture.isExplicit = true ∨
      desired.config.cpu.value.architecture.isPolicy = true) :
    ∀ r ∈ cpuRules ⟨id, desired.kind, copied⟩ desired.config, r.stepIn remote = none := by
  simp only [cpuRules]
  split
  · simp
  · refine List.forall_mem_append.2 ⟨?_, ?_⟩
    · simp only [List.forall_mem_cons]
      refine ⟨stepIn_rule_eq_none (hs.common "cores" ?_) ?_ (Remote.readNumber_some _ _),
        stepIn_rule_eq_none (hs.common "cpuunits" ?_) ?_ (Remote.readNumber_some _ _),
        stepIn_rule_eq_none (hs.common "cpulimit" ?_) ?_ (Remote.readNumber_nonZero _), by simp⟩
      all_goals
        simp only [Desired.commonKeys, Desired.commonParams]
        cases desired.kind <;> simp [lookup?_append, lookup?_cons, Kind.nameKey, numberText?]
    · split
      · rename_i hvm
        have hvm : desired.kind = .vm := by simpa using hvm
        have hget (key : String) (hkey : key ∈ Desired.hardwareKeys) := hs.hardware hvm key hkey
        simp only [List.forall_mem_cons]
        refine ⟨stepIn_rule_eq_none (hget "sockets" (by decide)) ?_ (Remote.readNumber_some _ _),
          stepIn_architecture_eq_none ha ((hget "arch" (by decide)).trans (congrArg _ ?_)),
          stepIn_rule_eq_none (hget "cpu" (by decide)) ?_
            (Remote.readEmulation_emulationText (hw.emulation hvm) (hw.flags hvm)),
          stepIn_rule_eq_none (hget "vcpus" (by decide)) ?_ (Remote.readHotplug_filter _),
          stepIn_rule_eq_none (hget "numa" (by decide)) ?_ (Remote.readFlag_some _ _), by simp⟩
        all_goals
          simp [Desired.vmHardwareParams, lookup?_append, lookup?_cons, lookup?_ite, numberText?,
            flagText?, emulation, hotplug, Setting.zip, Setting.map, Cpu.hotplugCount]
      · simp

theorem memory_created (hs : desired.StoredIn id remote) (hi : desired.id = some id) :
    ∀ r ∈ memoryRules ⟨id, desired.kind, copied⟩ desired.config, r.stepIn remote = none := by
  have hcommon := hs.common "memory" (by cases desired.kind <;> decide)
  have hmemory : lookup? desired.commonParams "memory" =
      numberText? desired.config.memory.value.dedicated.value := by
    cases hk : desired.kind <;> simp [Desired.commonParams, hk, lookup?_append, lookup?_cons, Kind.nameKey]
  rw [hmemory] at hcommon
  simp only [memoryRules]
  split
  · simp
  · refine List.forall_mem_append.2 ⟨?_, ?_⟩
    · have hfloating : remote.get? desired.kind.floatingKey =
          (numberText? desired.config.memory.value.floating.value).map .string := by
        cases hk : desired.kind with
        | vm =>
          rw [Kind.floatingKey, hs.hardware hk "balloon" (by decide)]
          simp [Desired.vmHardwareParams, lookup?_append, lookup?_cons, lookup?_ite]
        | container => exact hs.swap hk
      simp only [List.forall_mem_cons]
      exact ⟨stepIn_rule_eq_none hcommon rfl (Remote.readNumber_some _ _),
        stepIn_rule_eq_none hfloating rfl (Remote.readNumber_some _ _), by simp⟩
    · split
      · rename_i hvm
        have hvm : desired.kind = .vm := by simpa using hvm
        simp only [List.forall_mem_cons]
        refine ⟨stepIn_rule_eq_none (hs.hardware hvm "ivshmem" (by decide)) ?_
          (Remote.readSharedMemory_text _ _), by simp⟩
        simp [Desired.vmHardwareParams, lookup?_append, lookup?_cons, lookup?_ite, hi]
      · simp

theorem machine_created (hs : desired.StoredIn id remote) (hw : desired.config.Writable desired.kind)
    (hvm : desired.kind = .vm) :
    ∀ r ∈ machineRules ⟨id, desired.kind, copied⟩ desired.config, r.stepIn remote = none := by
  have hget (key : String) (hkey : key ∈ Desired.machineKeys) := hs.machine hvm key hkey
  refine List.forall_mem_append.2 ⟨?_, ?_⟩
  · simp only [List.forall_mem_cons]
    refine ⟨stepIn_rule_eq_none (hget "bios" (by decide)) ?_ (Remote.readText_some _ _),
      stepIn_rule_eq_none (hget "machine" (by decide)) ?_ (Remote.readText_nonEmpty _),
      stepIn_rule_eq_none (hget "keyboard" (by decide)) ?_ (Remote.readText_nonEmpty _),
      stepIn_rule_eq_none (hget "ostype" (by decide)) ?_ (Remote.readText_some _ _),
      stepIn_rule_eq_none (hget "acpi" (by decide)) ?_ (Remote.readFlag_some _ _),
      stepIn_rule_eq_none (hget "tablet" (by decide)) ?_ (Remote.readFlag_some _ _),
      stepIn_rule_eq_none (hget "scsihw" (by decide)) ?_ (Remote.readText_some _ _),
      stepIn_rule_eq_none (hget "agent" (by decide)) ?_ (Remote.readAgent_toText (hw.agent hvm)), by simp⟩
    all_goals simp [Desired.vmMachineParams, lookup?_append, lookup?_cons, flagText?]
  · rw [bootOrderRules]
    split
    · simp
    · simp only [List.forall_mem_cons]
      refine ⟨stepIn_rule_eq_none (hget "boot" (by decide)) ?_
        (Remote.readBootOrder_bootOrderText (hw.bootOrder hvm)), by simp⟩
      simp [Desired.vmMachineParams, lookup?_append, lookup?_cons]

/-- A virtual machine is made a template by the request. -/
theorem readFlag_template (hs : desired.StoredIn id remote) (hk : desired.kind = .vm) :
    (Remote.readFlag false (remote.get? "template")).value = desired.config.template.value := by
  have hasked : lookup? desired.vmMachineParams "template" =
      if desired.config.template.value then some "1" else none := by
    cases hv : desired.config.template.value <;>
      simp [Desired.vmMachineParams, lookup?_append, lookup?_cons, hv]
  rw [hs.machine hk "template" (by decide), hasked]
  cases desired.config.template.value with
  | false => rfl
  | true => exact (by decide : (Remote.readFlag false (some (.string "1"))).value = true)

/-- A container that the user wants to be a template becomes one later. -/
theorem differs_template (hs : desired.StoredIn id remote) :
    DiffContext.differs ⟨id, desired.kind, copied⟩ desired.config.template
        (Remote.readFlag false (remote.get? "template")) =
      (decide (desired.kind = .container) && desired.config.template.value &&
      !desired.config.template.isPolicy) := by
  cases hk : desired.kind with
  | vm => simp [DiffContext.differs, Setting.differsFrom, readFlag_template hs hk]
  | container =>
    rw [hs.template hk]
    cases hp : desired.config.template.isPolicy <;> cases hv : desired.config.template.value <;>
      simp [DiffContext.differs, DiffContext.inherits, Setting.differsFrom, hp, hv, Remote.readFlag,
        Setting.reported, Setting.isHypervisor]

/-- What a new instance is found to be a template of: nothing that it is not declared to be. -/
theorem template_or_readFlag (hs : desired.StoredIn id remote) :
    (desired.config.template.value || (Remote.readFlag false (remote.get? "template")).value) =
      desired.config.template.value := by
  cases hk : desired.kind with
  | vm => rw [readFlag_template hs hk, Bool.or_self]
  | container =>
    rw [hs.template hk]
    exact Bool.or_false _

/-! ## Network slots -/

/-- A device is asked for as a step would write it where there is none yet. -/
theorem text_slotRulesAt (desired : Desired) (slot : Nat) (nic : Nic) :
    (slotRulesAt desired.kind (desired.config.cloudInit.map (·.ipConfigs)) .none).text slot
      { nic with mac := nic.mac <|> none } = desired.nicText slot nic := by
  have hnic : ({ nic with mac := nic.mac <|> none } : Nic) = nic := by simp
  rw [hnic, Desired.nicText]
  cases desired.kind with
  | vm => rfl
  | container =>
    have haddresses : addressesAt (desired.config.cloudInit.map (·.ipConfigs)) slot .none =
        (desired.addresses[slot]?).getD .none := by
      rw [Desired.addresses]
      cases desired.config.cloudInit.map (·.ipConfigs) with
      | none => rfl
      | some declared => rfl
    dsimp only [slotRulesAt]
    rw [haddresses, ← Nic.toContainerText_eq]

theorem nic_created (hs : desired.StoredIn id remote) (hd : desired.config.Declared desired.kind)
    (hw : desired.config.Writable desired.kind) {slot : Nat} (hslot : slot < maxNics) :
    desired.kind.Readable (remote.get? (nicSlot slot)) ∧
      (nicRule desired.kind desired.config slot).stepIn remote = none := by
  have habsent : desired.kind.Readable none ∧ desired.kind.seenIn none = none := by
    simp [Kind.Readable, Kind.seenIn]
  have hget := hs.nics slot hslot
  rw [ParamRule.stepIn]
  simp only [nicRule, hget]
  cases hwant : desired.config.nics.value[slot]? with
  | none => exact ⟨by simpa using habsent.1, by simp [habsent.2, slotStep?]⟩
  | some nic =>
    have hmem : nic ∈ desired.config.nics.value := List.mem_of_getElem? hwant
    cases he : nic.enabled with
    | false =>
      rw [Option.filter_some, if_neg (by simp [he])]
      exact ⟨by simpa using habsent.1, by simp [habsent.2, slotStep?, slotIntent?, he]⟩
    | true =>
      have ha : desired.kind = .container →
          ∀ declared ∈ desired.config.cloudInit.map (·.ipConfigs), ∀ ip ∈ declared, ip.Writable := by
        intro hk declared hdeclared
        obtain ⟨init, hinit, rfl⟩ := Option.map_eq_some_iff.1 hdeclared
        exact hw.addresses hk init hinit
      have hmac : ∀ s ∈ (none : Option String), IsValue s := by simp
      obtain ⟨found, hread, hsatisfied⟩ := exists_readNic_text slot he (hw.nics nic hmem he)
        (fun hk => hd.models hk nic hmem) hmac ha IpConfig.writable_none
      rw [text_slotRulesAt] at hread
      simp only [Option.filter_some, he, if_true, Option.map_some, seenIn_string hread]
      exact ⟨readable_string hread, slotIntent?_of_satisfied he hsatisfied⟩

/-! ## All rules -/

theorem stepIn_template (hs : desired.StoredIn id remote) :
    (templateRule ⟨id, desired.kind, copied⟩ desired.config).stepIn remote = desired.templateStep? := by
  rw [ParamRule.stepIn, templateRule]
  dsimp only
  rw [differs_template hs, Desired.templateStep?]
  cases desired.kind <;> cases desired.config.template.value <;>
    cases desired.config.template.isPolicy <;> rfl

/-- Of all comparisons only that of the template may ask for anything, and none owes a restart. -/
theorem diffConfig_created {node : String} (hs : desired.StoredIn id remote)
    (hd : doc.desired policy = .ok desired)
    (hw : desired.config.Writable desired.kind) (hi : desired.id = some id)
    (ho : remote.observe ⟨node, id, desired.kind⟩ status = .ok observed) :
    diffConfig ⟨id, desired.kind, copied⟩ desired.config observed.config =
    ⟨desired.templateStep?.toList, false, []⟩ := by
  have hdeclared := Document.config_declared hd
  have harchitecture : desired.config.cpu.value.architecture.isExplicit = true ∨
      desired.config.cpu.value.architecture.isPolicy = true := by
    obtain ⟨-, -, system, disks, nics, cloudInit, -, -, -, -, rfl⟩ := Document.desired_eq_ok_iff.1 hd
    exact Setting.isExplicit_or_isPolicy_declared _ _
  obtain ⟨-, -, -, devices, hconfig, hnics, haddresses⟩ := Remote.observe_spec ho
  let ctx : DiffContext := ⟨id, desired.kind, copied⟩
  have hgeneral : (generalComparisons ctx desired.config observed.config).filterMap Comparison.intent? =
      [] := by
    rw [hconfig]
    exact intents_general.trans (List.filterMap_eq_nil_iff.2 (general_created hs hdeclared hw))
  have hhardware : (hardwareComparisons ctx desired.config observed.config).filterMap Comparison.intent? =
      [] := by
    rw [hconfig]
    refine intents_hardware.trans (List.filterMap_eq_nil_iff.2 ?_)
    simp only [hardwareRules, List.forall_mem_append]
    refine ⟨⟨cpu_created hs hw harchitecture, memory_created hs hi⟩, ?_⟩
    split
    · exact machine_created hs hw ‹_›
    · simp
  have htemplate : templateIntents ctx desired.config observed.config = desired.templateStep?.toList := by
    rw [hconfig, ← stepIn_template hs]
    refine intents_template.trans ?_
    rw [ParamRule.steps, List.filterMap_cons]
    cases ParamRule.stepIn _ _ <;> rfl
  have hnetworks : networkIntents ctx desired.config observed.config = [] := by
    rw [hconfig]
    refine (intents_networks hdeclared.nics hnics haddresses).trans
      (List.filterMap_eq_nil_iff.2 fun r hr => ?_)
    rw [nicRules] at hr
    split at hr
    · simp at hr
    · obtain ⟨slot, hslot, rfl⟩ := List.mem_map.1 hr
      exact (nic_created hs hdeclared hw (List.mem_range.1 hslot)).2
  have hsettled : ∀ c ∈ comparisons ctx desired.config observed.config, c.differs = false := by
    refine List.forall_mem_append.2 ⟨fun c hc => ?_, fun c hc => ?_⟩
    · exact Comparison.intent?_eq_none_iff.1 (List.filterMap_eq_nil_iff.1 hgeneral c hc)
    · exact Comparison.intent?_eq_none_iff.1 (List.filterMap_eq_nil_iff.1 hhardware c hc)
  have hreboot : (comparisons ctx desired.config observed.config).any (fun c => c.differs && c.restart) =
      false := by
    refine List.any_eq_false.2 fun c hc => ?_
    simp [hsettled c hc]
  have hfailures : templateFailures ctx desired.config observed.config = [] := by
    rw [hconfig, templateFailures]
    refine if_neg ?_
    rw [show (remote.configWith desired.kind status devices).template = Remote.readFlag false
      (remote.get? "template") from rfl, differs_template hs]
    cases desired.config.template.value <;> simp
  rw [diffConfig, hgeneral, htemplate, hhardware, hnetworks, hreboot, hfailures]
  simp

end Plan

end Steward
