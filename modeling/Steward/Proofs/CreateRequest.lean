/-
What a request for a new instance says under each parameter, and what is stored when it is granted. The
parameters of the settings, the network slots, the drives and the first-boot settings are apart, so that
each is looked up in its own part of the request.
-/
import Mathlib
import Steward.Lab
import Steward.Proofs.SettingRules
import Steward.Proofs.SlotConflict

namespace Steward

open PropertyString

/-! ## Granted requests -/

namespace Desired

variable {params result : Dict String} {rest : List (String × String)}

theorem get?_addParams (h : addParams params rest = .ok result) (key : String) :
    result.get? key = (params.get? key).or (lookup? rest key) := by
  induction rest generalizing params with
  | nil =>
    cases h
    simp
  | cons entry rest ih =>
    rw [addParams] at h
    split at h
    · cases h
    · rename_i hfree
      rw [ih h, Dict.get?_insert, lookup?_cons]
      by_cases hk : entry.1 = key
      · have hnone : params.get? key = none := by simpa [Dict.contains_eq, hk] using hfree
        simp [hk, hnone]
      · simp [hk]

/-- What is added was not there before. -/
theorem get?_of_addParams (h : addParams params rest = .ok result) {entry : String × String}
    (he : entry ∈ rest) :
    params.get? entry.1 = none := by
  induction rest generalizing params with
  | nil => cases he
  | cons first rest ih =>
    rw [addParams] at h
    split at h
    · cases h
    · rename_i hfree
      have hfirst : params.get? first.1 = none := by simpa [Dict.contains_eq] using hfree
      rcases List.mem_cons.1 he with rfl | he
      · exact hfirst
      · have hrest := ih h he
        rw [Dict.get?_insert] at hrest
        split at hrest
        · cases hrest
        · exact hrest

end Desired

namespace Lab

theorem get?_put (id : UInt32) (config : Dict Json) (key value k : String) :
    (put id config key value).get? k =
      if key = k then some (.string (if isDriveKey key then allocated id config value else value)) else
      config.get? k := by
  rw [put, Dict.get?_insert]

theorem get?_foldl_put_other (id : UInt32) {entries : List (String × String)} {key : String}
    (h : key ∉ entries.map (·.1)) (config : Dict Json) :
    (entries.foldl (fun config (key, value) => put id config key value) config).get? key =
      config.get? key := by
  induction entries generalizing config with
  | nil => rfl
  | cons entry entries ih =>
    rw [List.map_cons, List.mem_cons, not_or] at h
    rw [List.foldl_cons, ih h.2, get?_put, if_neg (Ne.symm h.1)]

theorem get?_foldl_put (id : UInt32) {entries : List (String × String)} (hn : (entries.map (·.1)).Nodup)
    {key : String} {start : Dict Json} (hs : start.get? key = none) :
    ∃ config, (entries.foldl (fun config (key, value) => put id config key value) start).get? key =
      (lookup? entries key).map fun value => .string
      (if isDriveKey key then allocated id config value else value) := by
  induction entries generalizing start with
  | nil => exact ⟨start, by rw [List.foldl_nil, hs]; rfl⟩
  | cons entry entries ih =>
    rw [List.map_cons, List.nodup_cons] at hn
    by_cases hk : entry.1 = key
    · refine ⟨start, ?_⟩
      rw [List.foldl_cons, get?_foldl_put_other id (hk ▸ hn.1), get?_put, if_pos hk, lookup?_cons,
        if_pos hk, hk]
      rfl
    · obtain ⟨config, hconfig⟩ := ih hn.2 (show (put id start entry.1 entry.2).get? key =
        none by rw [get?_put, if_neg hk, hs])
      exact ⟨config, by rw [List.foldl_cons, hconfig, lookup?_cons, if_neg hk]⟩

/-- Each parameter of a request is stored, that of a drive with the volume that was allocated for it. -/
theorem get?_putAll (id : UInt32) (params : Dict String) (key : String) :
    ∃ config, (putAll id .empty params).get? key =
      (params.get? key).map fun value => .string
      (if isDriveKey key then allocated id config value else value) :=
  get?_foldl_put id params.nodup_keys rfl

theorem get?_putAll_of_not_drive (id : UInt32) (params : Dict String) {key : String}
    (h : isDriveKey key = false) :
    (putAll id .empty params).get? key = (params.get? key).map .string := by
  obtain ⟨config, hconfig⟩ := get?_putAll id params key
  simpa [h] using hconfig

end Lab

/-! ## The parts of a request -/

namespace Desired

/-- The parameters that both kinds of instances have. -/
def commonKeys (kind : Kind) : List String :=
  [kind.nameKey, "description", "tags", "pool", "onboot", "protection", "startup", "cores", "cpuunits",
    "cpulimit", "memory"]

def hardwareKeys : List String := ["sockets", "cpu", "numa", "arch", "vcpus", "balloon", "ivshmem"]

def machineKeys : List String :=
  ["bios", "machine", "keyboard", "ostype", "acpi", "tablet", "scsihw", "agent", "boot", "template"]

/-- The parameters of a virtual machine's settings. -/
def vmSettingKeys : List String := commonKeys .vm ++ hardwareKeys ++ machineKeys

def containerInitKeys : List String := ["searchdomain", "nameserver", "password", "ssh-public-keys"]

/-- The parameters of a container's settings, its first-boot settings among them. -/
def containerSettingKeys : List String := commonKeys .container ++ ["ostemplate"] ++ ["swap"] ++
    containerInitKeys

def nicKeys : List String := (List.range maxNics).map nicSlot

/-- The parameters of a virtual machine's first-boot settings, the drive apart. -/
def initKeys : List String := Plan.cloudInitParams Remote.maxIpConfigs

theorem vmSettingKeys_apart : ∀ key ∈ vmSettingKeys, key ∉ nicKeys ∧ key ∉ Remote.driveKeys .vm ∧
    key ∉ initKeys := by
  decide +kernel

theorem nicKeys_apart (kind : Kind) : ∀ key ∈ nicKeys, key ∉ Remote.driveKeys kind ∧ key ∉ initKeys := by
  cases kind <;> decide +kernel

theorem driveKeys_apart : ∀ key ∈ Remote.driveKeys .vm, key ∉ initKeys := by decide +kernel

theorem containerSettingKeys_apart :
    ∀ key ∈ containerSettingKeys, key ∉ nicKeys ∧ key ∉ Remote.driveKeys .container := by decide +kernel

theorem keys_optional (key : String) (value : Option String) :
    ((optional key value).map (·.1)).Sublist [key] := by
  cases value with
  | none => exact List.nil_sublist _
  | some value => exact List.Sublist.refl _

theorem keys_flag (key : String) (set : Bool) : ((flag key set).map (·.1)).Sublist [key] := by
  cases set with
  | false => exact List.nil_sublist _
  | true => exact List.Sublist.refl _

theorem keys_nil : (([] : List (String × String)).map (·.1)).Sublist [] := List.Sublist.refl _

theorem keys_cons (key value : String) {xs : List (String × String)} {keys : List String}
    (hx : (xs.map (·.1)).Sublist keys) : (((key, value) :: xs).map (·.1)).Sublist (key :: keys) :=
  hx.cons_cons key

theorem keys_append {xs ys : List (String × String)} {a b : List String} (hx : (xs.map (·.1)).Sublist a)
    (hy : (ys.map (·.1)).Sublist b) : ((xs ++ ys).map (·.1)).Sublist (a ++ b) := by
  rw [List.map_append]
  exact hx.append hy

variable {desired : Desired}

theorem keys_commonParams (desired : Desired) :
    (desired.commonParams.map (·.1)).Sublist (commonKeys desired.kind) := by
  have hflags := keys_cons "onboot" (flagDigit desired.config.onBoot.value)
    (keys_cons "protection" (flagDigit desired.config.protection.value) keys_nil)
  exact keys_append (keys_append (keys_append
    (keys_append (keys_append (keys_append (keys_append (keys_append (keys_append
    (keys_optional _ _) (keys_optional _ _)) (keys_optional _ _)) (keys_optional _ _)) hflags)
    (keys_optional _ _))
    (keys_optional _ _)) (keys_optional _ _)) (keys_optional _ _)) (keys_optional _ _)

theorem keys_vmHardwareParams (desired : Desired) :
    (desired.vmHardwareParams.map (·.1)).Sublist hardwareKeys := by
  have harch : ((if desired.config.cpu.value.architecture.isExplicit then
      optional "arch" (nonEmpty? desired.config.cpu.value.architecture.value) else []).map (·.1)).Sublist
      ["arch"] := by
    split
    · exact keys_optional _ _
    · exact List.nil_sublist _
  exact keys_append (keys_append (keys_append (keys_append (keys_append (keys_optional _ _)
    (keys_cons "cpu" _ (keys_cons "numa" _ keys_nil))) harch) (keys_optional _ _)) (keys_optional _ _))
    (keys_optional _ _)

theorem keys_vmMachineParams (desired : Desired) :
    (desired.vmMachineParams.map (·.1)).Sublist machineKeys := by
  have hsystem := keys_cons "ostype" desired.config.osType.value
      (keys_cons "acpi" (flagDigit desired.config.acpi.value)
    (keys_cons "tablet" (flagDigit desired.config.tablet.value)
    (keys_cons "scsihw" desired.config.scsiHardware.value
      (keys_cons "agent" desired.config.agent.value.toText keys_nil))))
  exact keys_append (keys_append (keys_append
    (keys_append (keys_append (keys_cons "bios" _ keys_nil) (keys_optional _ _))
    (keys_optional _ _)) hsystem) (keys_optional _ _)) (keys_flag _ _)

/-- The settings of a virtual machine as they are sent. -/
def vmSettings (desired : Desired) : List (String × String) :=
  desired.commonParams ++ desired.vmHardwareParams ++ desired.vmMachineParams

theorem keys_vmSettings (hk : desired.kind = .vm) : (desired.vmSettings.map (·.1)).Sublist vmSettingKeys := by
  have hcommon := keys_commonParams desired
  rw [hk] at hcommon
  exact keys_append (keys_append hcommon (keys_vmHardwareParams desired)) (keys_vmMachineParams desired)

/-- Each setting of a virtual machine is looked up in its own part. -/
theorem lookup?_vmSettings (hk : desired.kind = .vm) :
    (∀ key ∈ commonKeys .vm, lookup? desired.vmSettings key = lookup? desired.commonParams key) ∧
      (∀ key ∈ hardwareKeys, lookup? desired.vmSettings key = lookup? desired.vmHardwareParams key) ∧
      ∀ key ∈ machineKeys, lookup? desired.vmSettings key = lookup? desired.vmMachineParams key := by
  have hcommon := keys_commonParams desired
  rw [hk] at hcommon
  have hapart : (∀ key ∈ commonKeys .vm, key ∉ hardwareKeys ∧ key ∉ machineKeys) ∧
      ∀ key ∈ hardwareKeys, key ∉ machineKeys := by decide
  refine ⟨fun key hkey => ?_, fun key hkey => ?_, fun key hkey => ?_⟩
  · have hhardware := lookup?_eq_none_of_keys (keys_vmHardwareParams desired).subset (hapart.1 key hkey).1
    have hmachine := lookup?_eq_none_of_keys (keys_vmMachineParams desired).subset (hapart.1 key hkey).2
    rw [vmSettings, lookup?_append, lookup?_append, hhardware, hmachine, Option.or_none, Option.or_none]
  · have hnone := lookup?_eq_none_of_keys hcommon.subset fun hmem => (hapart.1 key hmem).1 hkey
    have hmachine := lookup?_eq_none_of_keys (keys_vmMachineParams desired).subset (hapart.2 key hkey)
    rw [vmSettings, lookup?_append, lookup?_append, hnone, hmachine, Option.none_or, Option.or_none]
  · have hnone := lookup?_eq_none_of_keys hcommon.subset fun hmem => (hapart.1 key hmem).2 hkey
    have hhardware := lookup?_eq_none_of_keys (keys_vmHardwareParams desired).subset fun hmem =>
        hapart.2 key hmem hkey
    rw [vmSettings, lookup?_append, lookup?_append, hnone, hhardware, Option.none_or, Option.none_or]

/-- The disks as they are asked for. -/
def diskParams (desired : Desired) : List (String × String) :=
  desired.config.disks.entries.map fun (slot, disk) => (slot, disk.toText)

theorem keys_diskParams (desired : Desired) : desired.diskParams.map (·.1) = desired.config.disks.keys := by
  rw [diskParams, List.map_map]
  rfl

theorem lookup?_diskParams (desired : Desired) (slot : String) :
    lookup? desired.diskParams slot = (desired.config.disks.get? slot).map Disk.toText :=
  lookup?_map Disk.toText desired.config.disks.entries slot

/-- Network devices as they are written by `text`. -/
def nicParams (nics : List Nic) (text : Nat → Nic → String) : List (String × String) :=
  nics.zipIdx.filterMap fun (nic, slot) => if nic.enabled then some (nicSlot slot, text slot nic) else none

theorem nicSlot_injective : Function.Injective nicSlot := fun _ _ h => Text.append_decimal_inj.1 h

theorem nicParams_eq {nics : List Nic} (h : nics.length ≤ maxNics) (text : Nat → Nic → String) :
    nicParams nics text = (List.range maxNics).filterMap fun slot =>
      ((nics[slot]?.filter Nic.enabled).map (text slot)).map fun value => (nicSlot slot, value) := by
  have hslots := Plan.filterMap_zipIdx_eq (fun (nic : Nic) slot =>
      if nic.enabled then some (nicSlot slot, text slot nic) else none)
    (k := 0) h
  rw [nicParams, hslots, List.range_eq_range']
  refine List.filterMap_congr fun slot _ => ?_
  cases hn : nics[slot]? with
  | none => rfl
  | some nic => cases he : nic.enabled <;> simp [he, Option.filter_some]

theorem lookup?_nicParams {nics : List Nic} (h : nics.length ≤ maxNics) (text : Nat → Nic → String)
    {slot : Nat} (hs : slot < maxNics) :
    lookup? (nicParams nics text) (nicSlot slot) = (nics[slot]?.filter Nic.enabled).map (text slot) := by
  rw [nicParams_eq h, lookup?_filterMap nicSlot_injective
    (fun slot => (nics[slot]?.filter Nic.enabled).map (text slot)) (List.range maxNics) slot,
    if_pos (List.mem_range.2 hs)]

theorem keys_nicParams {nics : List Nic} (h : nics.length ≤ maxNics) (text : Nat → Nic → String) :
    ((nicParams nics text).map (·.1)).Sublist nicKeys := by
  rw [nicParams_eq h, nicKeys]
  exact keys_filterMap nicSlot _ _

/-! ## First-boot settings -/

theorem settings_append (as bs : List Intent) : settings (as ++ bs) = settings as ++ settings bs :=
  List.filterMap_append

/-- What is set where nothing is there yet. -/
theorem settings_setOrDelete (field param : String) (want : Option String) :
    settings (Plan.setOrDelete field param want none) = optional param want := by
  cases want <;> rfl

/-- The account as it is written. -/
def accountParams (account : Account) : List (String × String) :=
  optional "ciuser" account.name ++ optional "cipassword" account.password ++
    optional "sshkeys" (Plan.joined? "\n" account.keys)

def resolverParams (resolver : Resolver) : List (String × String) :=
  optional "searchdomain" resolver.domain ++ optional "nameserver" (Plan.joined? " " resolver.servers)

def addressParams (addresses : List IpConfig) : List (String × String) :=
  (List.range addresses.length).filterMap fun n => (Plan.ipConfigText? addresses[n]?).map fun value =>
    (IpConfig.slot n, value)

theorem settings_account (account : Account) :
    settings (Plan.accountIntents account none) = accountParams account := by
  have hpassword : settings (if Plan.passwordSettled account.password none then []
      else Plan.setOrDelete "cloud_init.user_account.password" "cipassword" account.password none) =
      optional "cipassword" account.password := by
    cases account.password with
    | none => rfl
    | some password => rfl
  rw [Plan.accountIntents, Option.getD_none]
  dsimp only
  rw [settings_append, settings_append, settings_setOrDelete, hpassword]
  exact congrArg _ (settings_setOrDelete _ _ _)

theorem settings_resolver (resolver : Resolver) :
    settings (Plan.resolverIntents resolver none) = resolverParams resolver := by
  rw [Plan.resolverIntents, Option.getD_none]
  dsimp only
  rw [settings_append, settings_setOrDelete]
  exact congrArg _ (settings_setOrDelete _ _ _)

theorem settings_addresses (addresses : List IpConfig) :
    settings (Plan.ipConfigIntents addresses []) = addressParams addresses := by
  rw [Plan.ipConfigIntents, addressParams, List.length_nil, Nat.max_zero]
  induction List.range addresses.length with
  | nil => rfl
  | cons n rest ih =>
    rw [List.flatMap_cons, settings_append, ih, List.filterMap_cons]
    cases ht : Plan.ipConfigText? addresses[n]? <;> rfl

/-- First-boot settings other than the drive. -/
def initParams (want : CloudInit) : List (String × String) :=
  (want.account.map accountParams).getD [] ++ (want.resolver.map resolverParams).getD [] ++
    addressParams want.ipConfigs

theorem cloudInitParams_none (h : desired.config.cloudInit = none) : desired.cloudInitParams = [] := by
  rw [cloudInitParams, h]
  rfl

theorem cloudInitParams_some {want : CloudInit} (h : desired.config.cloudInit = some want) :
    desired.cloudInitParams =
      (Plan.targetSlot want none, CloudInit.driveText want.datastore) :: initParams want := by
  have hrelocation : Plan.needsRelocation want none = true := rfl
  have haccount : settings ((want.account.map fun account => Plan.accountIntents account none).getD []) =
      (want.account.map accountParams).getD [] := by
    cases want.account with
    | none => rfl
    | some account => exact settings_account account
  have hresolver : settings ((want.resolver.map fun resolver => Plan.resolverIntents resolver none).getD []) =
      (want.resolver.map resolverParams).getD [] := by
    cases want.resolver with
    | none => rfl
    | some resolver => exact settings_resolver resolver
  rw [cloudInitParams, h, Plan.planCloudInit, hrelocation, if_pos rfl, if_pos rfl, Option.toList_some,
    List.singleton_append, initParams, ← haccount, ← hresolver, ← settings_addresses, ← settings_append,
    ← settings_append]
  rfl

def accountKeys : List String := ["ciuser", "cipassword", "sshkeys"]

def resolverKeys : List String := ["searchdomain", "nameserver"]

theorem keys_accountParams (account : Option Account) :
    (((account.map accountParams).getD []).map (·.1)).Sublist accountKeys := by
  cases account with
  | none => exact List.nil_sublist _
  | some account =>
    exact keys_append (keys_append (keys_optional _ _) (keys_optional _ _)) (keys_optional _ _)

theorem keys_resolverParams (resolver : Option Resolver) :
    (((resolver.map resolverParams).getD []).map (·.1)).Sublist resolverKeys := by
  cases resolver with
  | none => exact List.nil_sublist _
  | some resolver => exact keys_append (keys_optional _ _) (keys_optional _ _)

theorem keys_addressParams {addresses : List IpConfig} (h : addresses.length ≤ Remote.maxIpConfigs) :
    ((addressParams addresses).map (·.1)).Sublist ((List.range Remote.maxIpConfigs).map IpConfig.slot) :=
  (keys_filterMap _ _ _).trans ((List.range_sublist.2 h).map _)

theorem keys_initParams {want : CloudInit} (h : want.ipConfigs.length ≤ Remote.maxIpConfigs) :
    ((initParams want).map (·.1)).Sublist initKeys :=
  keys_append (keys_append (keys_accountParams _) (keys_resolverParams _)) (keys_addressParams h)

theorem lookup?_addressParams (addresses : List IpConfig) (n : Nat) :
    lookup? (addressParams addresses) (IpConfig.slot n) = Plan.ipConfigText? addresses[n]? := by
  have hslot : Function.Injective IpConfig.slot := fun _ _ h => Text.append_decimal_inj.1 h
  rw [addressParams, lookup?_filterMap hslot (fun n => Plan.ipConfigText? addresses[n]?)]
  split
  · rfl
  · rename_i hn
    rw [List.getElem?_eq_none (by simpa using hn)]
    rfl

/-- Each first-boot setting is looked up in its own part. -/
theorem lookup?_initParams {want : CloudInit} (h : want.ipConfigs.length ≤ Remote.maxIpConfigs) :
    (∀ key ∈ accountKeys, lookup? (initParams want) key =
      lookup? ((want.account.map accountParams).getD []) key) ∧
      (∀ key ∈ resolverKeys, lookup? (initParams want) key =
      lookup? ((want.resolver.map resolverParams).getD []) key) ∧
      ∀ n < Remote.maxIpConfigs, lookup? (initParams want) (IpConfig.slot n) =
      Plan.ipConfigText? want.ipConfigs[n]? := by
  let slots := (List.range Remote.maxIpConfigs).map IpConfig.slot
  have hapart : (∀ key ∈ accountKeys, key ∉ resolverKeys ∧ key ∉ slots) ∧
      (∀ key ∈ resolverKeys, key ∉ accountKeys ∧ key ∉ slots) ∧
      ∀ key ∈ slots, key ∉ accountKeys ∧ key ∉ resolverKeys := by decide +kernel
  have haccount {key : String} (hkey : key ∉ accountKeys) :
      lookup? ((want.account.map accountParams).getD []) key = none :=
    lookup?_eq_none_of_keys (keys_accountParams _).subset hkey
  have hresolver {key : String} (hkey : key ∉ resolverKeys) :
      lookup? ((want.resolver.map resolverParams).getD []) key = none :=
    lookup?_eq_none_of_keys (keys_resolverParams _).subset hkey
  have haddress {key : String} (hkey : key ∉ slots) : lookup? (addressParams want.ipConfigs) key = none :=
    lookup?_eq_none_of_keys (keys_addressParams h).subset hkey
  refine ⟨fun key hkey => ?_, fun key hkey => ?_, fun n hn => ?_⟩
  · obtain ⟨hr, hs⟩ := hapart.1 key hkey
    rw [initParams, lookup?_append, lookup?_append, hresolver hr, haddress hs, Option.or_none, Option.or_none]
  · obtain ⟨ha, hs⟩ := hapart.2.1 key hkey
    rw [initParams, lookup?_append, lookup?_append, haccount ha, haddress hs, Option.none_or, Option.or_none]
  · obtain ⟨ha, hr⟩ := hapart.2.2 _ (List.mem_map_of_mem (List.mem_range.2 hn))
    rw [initParams, lookup?_append, lookup?_append, haccount ha, hresolver hr, Option.none_or, Option.none_or,
      lookup?_addressParams]

/-! ## Requests by their parts -/

/-- What keeps the parts of a request apart: network devices, drives and addresses in slots that there are. -/
structure InPlace (desired : Desired) : Prop where
  nics : desired.config.nics.value.length ≤ maxNics
  disks : ∀ slot ∈ desired.config.disks.keys, slot ∈ Remote.driveKeys desired.kind
  drive : desired.kind = .vm → ∀ want ∈ desired.config.cloudInit, Plan.targetSlot want none ∈ driveSlots
  addresses : ∀ want ∈ desired.config.cloudInit, want.ipConfigs.length ≤ Remote.maxIpConfigs

section VirtualMachine

variable {params : Dict String}

theorem get?_vmParams (h : desired.vmParams = .ok params) (hk : desired.kind = .vm) (hp : desired.InPlace)
    (key : String) :
    params.get? key = (lookup? (nicParams desired.config.nics.value fun _ nic => nic.toText) key).or
      (((desired.config.disks.get? key).map Disk.toText).or
        ((lookup? desired.vmSettings key).or (lookup? desired.cloudInitParams key))) := by
  have hsettings : (desired.vmSettings.map (·.1)).Nodup :=
    List.Nodup.sublist (keys_vmSettings hk) (by decide)
  have hdisks : (desired.diskParams.map (·.1)).Nodup := by
    rw [keys_diskParams]
    exact desired.config.disks.nodup_keys
  have hnics : ((nicParams desired.config.nics.value fun _ nic => nic.toText).map (·.1)).Nodup :=
    List.Nodup.sublist (keys_nicParams hp.nics _) (List.nodup_range.map nicSlot_injective)
  have hparams : Dict.ofList (desired.commonParams ++ desired.vmHardwareParams ++ desired.vmMachineParams ++
      desired.vmDeviceParams) = .ofList (desired.vmSettings ++ (desired.diskParams ++
        nicParams desired.config.nics.value fun _ nic => nic.toText)) := rfl
  rw [vmParams, hparams] at h
  rw [get?_addParams h, Dict.get?_ofList_append, Dict.get?_ofList_append, Dict.get?_ofList_of_nodup hsettings,
    Dict.get?_ofList_of_nodup hdisks, Dict.get?_ofList_of_nodup hnics, lookup?_diskParams]
  simp only [Option.or_assoc]

theorem lookup?_nicParams_of_not_mem (hp : desired.InPlace) (text : Nat → Nic → String) {key : String}
    (h : key ∉ nicKeys) :
    lookup? (nicParams desired.config.nics.value text) key = none :=
  lookup?_eq_none_of_keys (keys_nicParams hp.nics text).subset h

theorem get?_disks_of_not_mem (hp : desired.InPlace) {key : String}
    (h : key ∉ Remote.driveKeys desired.kind) :
    desired.config.disks.get? key = none := by
  cases hd : desired.config.disks.get? key with
  | none => rfl
  | some disk => exact absurd (hp.disks key (Dict.mem_keys_iff.2 (by simp [hd]))) h

theorem lookup?_cloudInitParams_of_not_mem (hk : desired.kind = .vm) (hp : desired.InPlace) {key : String}
    (hd : key ∉ driveSlots) (hi : key ∉ initKeys) : lookup? desired.cloudInitParams key = none := by
  cases hw : desired.config.cloudInit with
  | none =>
    rw [cloudInitParams_none hw]
    rfl
  | some want =>
    have hne : Plan.targetSlot want none ≠ key := fun he => hd (he ▸ hp.drive hk want hw)
    rw [cloudInitParams_some hw, lookup?_cons, if_neg hne]
    exact lookup?_eq_none_of_keys (keys_initParams (hp.addresses want hw)).subset hi

theorem not_mem_driveSlots {key : String} (h : key ∉ Remote.driveKeys .vm) : key ∉ driveSlots :=
  fun hd => h (List.mem_append_left _ hd)

theorem get?_vmSetting (h : desired.vmParams = .ok params) (hk : desired.kind = .vm)
    (hp : desired.InPlace) {key : String}
    (hkey : key ∈ vmSettingKeys) : params.get? key = lookup? desired.vmSettings key := by
  obtain ⟨hnic, hdrive, hinit⟩ := vmSettingKeys_apart key hkey
  rw [get?_vmParams h hk hp, lookup?_nicParams_of_not_mem hp _ hnic, get?_disks_of_not_mem hp (hk ▸ hdrive),
    lookup?_cloudInitParams_of_not_mem hk hp (not_mem_driveSlots hdrive) hinit]
  simp

theorem get?_vmNic (h : desired.vmParams = .ok params) (hk : desired.kind = .vm) (hp : desired.InPlace)
    {slot : Nat} (hs : slot < maxNics) :
    params.get? (nicSlot slot) = (desired.config.nics.value[slot]?.filter Nic.enabled).map Nic.toText := by
  have hkey : nicSlot slot ∈ nicKeys := List.mem_map_of_mem (List.mem_range.2 hs)
  obtain ⟨hdrive, hinit⟩ := nicKeys_apart .vm _ hkey
  have hsetting : lookup? desired.vmSettings (nicSlot slot) = none :=
    lookup?_eq_none_of_keys (keys_vmSettings hk).subset fun hmem => (vmSettingKeys_apart _ hmem).1 hkey
  rw [get?_vmParams h hk hp, lookup?_nicParams hp.nics _ hs, get?_disks_of_not_mem hp (hk ▸ hdrive), hsetting,
    lookup?_cloudInitParams_of_not_mem hk hp (not_mem_driveSlots hdrive) hinit]
  simp

/-- A drive is a disk, or the one with the first-boot settings. -/
theorem get?_vmDrive (h : desired.vmParams = .ok params) (hk : desired.kind = .vm) (hp : desired.InPlace)
    {slot : String} (hs : slot ∈ Remote.driveKeys .vm) :
    params.get? slot = ((desired.config.disks.get? slot).map Disk.toText).or
      ((desired.config.cloudInit.filter fun want => Plan.targetSlot want none = slot).map fun want =>
        CloudInit.driveText want.datastore) := by
  have hnic : slot ∉ nicKeys := fun hmem => (nicKeys_apart .vm _ hmem).1 hs
  have hsetting : lookup? desired.vmSettings slot = none :=
    lookup?_eq_none_of_keys (keys_vmSettings hk).subset fun hmem => (vmSettingKeys_apart _ hmem).2.1 hs
  have hinit : lookup? desired.cloudInitParams slot = (desired.config.cloudInit.filter fun want =>
      Plan.targetSlot want none = slot).map fun want => CloudInit.driveText want.datastore := by
    cases hw : desired.config.cloudInit with
    | none =>
      rw [cloudInitParams_none hw]
      rfl
    | some want =>
      have hrest : lookup? (initParams want) slot = none :=
        lookup?_eq_none_of_keys (keys_initParams (hp.addresses want hw)).subset (driveKeys_apart slot hs)
      rw [cloudInitParams_some hw, lookup?_cons, hrest]
      by_cases he : Plan.targetSlot want none = slot <;> simp [he, Option.filter_some]
  rw [get?_vmParams h hk hp, lookup?_nicParams_of_not_mem hp _ hnic, hsetting, hinit]
  simp

theorem get?_vmInit (h : desired.vmParams = .ok params) (hk : desired.kind = .vm) (hp : desired.InPlace)
    {key : String} (hkey : key ∈ initKeys) :
    params.get? key = desired.config.cloudInit.bind fun want => lookup? (initParams want) key := by
  have hnic : key ∉ nicKeys := fun hmem => (nicKeys_apart .vm _ hmem).2 hkey
  have hdrive : key ∉ Remote.driveKeys .vm := fun hmem => driveKeys_apart _ hmem hkey
  have hsetting : lookup? desired.vmSettings key = none :=
    lookup?_eq_none_of_keys (keys_vmSettings hk).subset fun hmem => (vmSettingKeys_apart _ hmem).2.2 hkey
  have hinit : lookup? desired.cloudInitParams key = desired.config.cloudInit.bind fun want =>
      lookup? (initParams want) key := by
    cases hw : desired.config.cloudInit with
    | none =>
      rw [cloudInitParams_none hw]
      rfl
    | some want =>
      have hne : Plan.targetSlot want none ≠ key := fun he =>
        hdrive (he ▸ List.mem_append_left _ (hp.drive hk want hw))
      rw [cloudInitParams_some hw, lookup?_cons, if_neg hne, Option.bind_some]
  rw [get?_vmParams h hk hp, lookup?_nicParams_of_not_mem hp _ hnic,
    get?_disks_of_not_mem hp (hk ▸ hdrive), hsetting, hinit]
  simp

/-- A request that is made does not ask for the drive in the slot of a disk. -/
theorem get?_disks_targetSlot (h : desired.vmParams = .ok params) {want : CloudInit}
    (hw : desired.config.cloudInit = some want) :
      desired.config.disks.get? (Plan.targetSlot want none) = none := by
  have hfree := get?_of_addParams h (by rw [cloudInitParams_some hw]; exact List.mem_cons_self)
  have hparams : desired.commonParams ++ desired.vmHardwareParams ++ desired.vmMachineParams ++
      desired.vmDeviceParams =
      desired.vmSettings ++ (desired.diskParams ++ nicParams desired.config.nics.value fun _ nic =>
        nic.toText) := rfl
  have hdisks : (desired.diskParams.map (·.1)).Nodup := by
    rw [keys_diskParams]
    exact desired.config.disks.nodup_keys
  rw [hparams, Dict.get?_ofList_append, Dict.get?_ofList_append, Option.or_eq_none_iff, Option.or_eq_none_iff,
    Dict.get?_ofList_of_nodup hdisks, lookup?_diskParams] at hfree
  exact Option.map_eq_none_iff.1 hfree.1.2

end VirtualMachine

section Container

variable {params : Dict String}

/-- The settings of a container as they are sent. -/
def containerSettings (desired : Desired) (template : String) : List (String × String) :=
  desired.commonParams ++ [("ostemplate", template)] ++
    optional "swap" (numberText? desired.config.memory.value.floating.value)

/-- The guest's addresses of a container by its slots. -/
def addresses (desired : Desired) : List IpConfig := (desired.config.cloudInit.map (·.ipConfigs)).getD []

theorem keys_containerInitParams (desired : Desired) :
    (desired.containerInitParams.map (·.1)).Sublist containerInitKeys :=
  keys_append (keys_append (keys_append (keys_optional _ _) (keys_optional _ _)) (keys_optional _ _))
    (keys_optional _ _)

theorem keys_containerSettings (hk : desired.kind = .container) (template : String) :
    ((desired.containerSettings template ++ desired.containerInitParams).map (·.1)).Sublist
      containerSettingKeys := by
  have hcommon := keys_commonParams desired
  rw [hk] at hcommon
  exact keys_append (keys_append (keys_append hcommon (keys_cons "ostemplate" _ keys_nil))
    (keys_optional _ _)) (keys_containerInitParams desired)

/-- Each setting of a container is looked up in its own part. -/
theorem lookup?_containerSettings (hk : desired.kind = .container) (template : String) :
    (∀ key ∈ commonKeys .container, (lookup? desired.containerInitParams key).or
        (lookup? (desired.containerSettings template) key) = lookup? desired.commonParams key) ∧
      lookup? (desired.containerSettings template) "swap" =
      numberText? desired.config.memory.value.floating.value ∧
      ∀ key ∈ containerInitKeys, lookup? (desired.containerSettings template) key = none := by
  have hcommon := keys_commonParams desired
  rw [hk] at hcommon
  have hapart : (∀ key ∈ commonKeys .container, key ≠ "ostemplate" ∧ key ≠ "swap" ∧ key ∉ containerInitKeys) ∧
      ∀ key ∈ containerInitKeys, key ≠ "ostemplate" ∧ key ≠ "swap" := by decide
  refine ⟨fun key hkey => ?_, ?_, fun key hkey => ?_⟩
  · obtain ⟨htemplate, hswap, hinit⟩ := hapart.1 key hkey
    rw [lookup?_eq_none_of_keys (keys_containerInitParams desired).subset hinit, Option.none_or,
      containerSettings,
      lookup?_append, lookup?_append, lookup?_cons, if_neg htemplate.symm, lookup?_nil, lookup?_optional,
      if_neg hswap.symm, Option.or_none, Option.or_none]
  · have hnone := lookup?_eq_none_of_keys hcommon.subset (by decide : "swap" ∉ commonKeys .container)
    rw [containerSettings, lookup?_append, lookup?_append, hnone]
    simp [lookup?_cons]
  · obtain ⟨htemplate, hswap⟩ := hapart.2 key hkey
    have hnone := lookup?_eq_none_of_keys hcommon.subset fun hmem => (hapart.1 key hmem).2.2 hkey
    rw [containerSettings, lookup?_append, lookup?_append, hnone, lookup?_cons, if_neg htemplate.symm,
      lookup?_nil, lookup?_optional, if_neg hswap.symm]
    rfl

theorem get?_containerParams (h : desired.containerParams = .ok params) (hk : desired.kind = .container)
    (hp : desired.InPlace) :
    ∃ template, ∀ key, params.get? key =
      (lookup? desired.containerInitParams key).or
        ((lookup? (nicParams desired.config.nics.value fun slot nic =>
            nic.toContainerText slot desired.addresses[slot]?) key).or
          ((lookup? (optional rootSlot ((desired.config.disks.get? rootSlot).map Disk.toText)) key).or
            (lookup? (desired.containerSettings template) key))) := by
  rw [containerParams] at h
  cases ht : desired.system.bind (·.template) with
  | none => rw [ht] at h; cases h
  | some template =>
    rw [ht] at h
    have hparams := (Except.ok.inj h).symm
    have hkeys := List.Nodup.sublist (keys_containerSettings hk template) (by decide)
    rw [List.map_append] at hkeys
    have hsettings := List.Nodup.of_append_left hkeys
    have hinit := List.Nodup.of_append_right hkeys
    have hroot : ((optional rootSlot ((desired.config.disks.get? rootSlot).map Disk.toText)).map
        (·.1)).Nodup :=
      List.Nodup.sublist (keys_optional _ _) (by decide)
    have hnics : ((nicParams desired.config.nics.value fun slot nic =>
        nic.toContainerText slot desired.addresses[slot]?).map (·.1)).Nodup :=
      List.Nodup.sublist (keys_nicParams hp.nics _) (List.nodup_range.map nicSlot_injective)
    refine ⟨template, fun key => ?_⟩
    rw [hparams, Dict.get?_ofList_append, Dict.get?_ofList_append, Dict.get?_ofList_append,
      ← containerSettings,
      Dict.get?_ofList_of_nodup hsettings, Dict.get?_ofList_of_nodup hroot, Dict.get?_ofList_of_nodup hinit]
    exact congrArg (fun o => Option.or _ (Option.or o _)) (Dict.get?_ofList_of_nodup hnics key)

theorem lookup?_root_of_ne {key : String} (h : key ≠ rootSlot) (value : Option String) :
    lookup? (optional rootSlot value) key = none := by rw [lookup?_optional, if_neg h.symm]

theorem get?_containerSetting (h : desired.containerParams = .ok params) (hk : desired.kind = .container)
    (hp : desired.InPlace) :
    ∃ template, ∀ key ∈ containerSettingKeys, params.get? key =
      (lookup? desired.containerInitParams key).or (lookup? (desired.containerSettings template) key) := by
  obtain ⟨template, hget⟩ := get?_containerParams h hk hp
  refine ⟨template, fun key hkey => ?_⟩
  obtain ⟨hnic, hdrive⟩ := containerSettingKeys_apart key hkey
  have hroot : key ≠ rootSlot := fun he => hdrive (by simp [he, Remote.driveKeys])
  rw [hget, lookup?_nicParams_of_not_mem hp _ hnic, lookup?_root_of_ne hroot, Option.none_or, Option.none_or]

theorem lookup?_containerParts (hk : desired.kind = .container) (template : String) {key : String}
    (h : key ∉ containerSettingKeys) :
    lookup? desired.containerInitParams key = none ∧ lookup? (desired.containerSettings template) key =
    none := by
  have hnone := lookup?_eq_none_of_keys (keys_containerSettings hk template).subset h
  rw [lookup?_append, Option.or_eq_none_iff] at hnone
  exact hnone.symm

theorem get?_containerNic (h : desired.containerParams = .ok params) (hk : desired.kind = .container)
    (hp : desired.InPlace) {slot : Nat} (hs : slot < maxNics) :
    params.get? (nicSlot slot) = (desired.config.nics.value[slot]?.filter Nic.enabled).map fun nic =>
      nic.toContainerText slot desired.addresses[slot]? := by
  obtain ⟨template, hget⟩ := get?_containerParams h hk hp
  have hkey : nicSlot slot ∈ nicKeys := List.mem_map_of_mem (List.mem_range.2 hs)
  have hroot : nicSlot slot ≠ rootSlot := fun he => (nicKeys_apart .container _ hkey).1
      (by simp [he, Remote.driveKeys])
  obtain ⟨hinit, hsettings⟩ :=
    lookup?_containerParts hk template fun hmem => (containerSettingKeys_apart _ hmem).1 hkey
  rw [hget, lookup?_nicParams hp.nics _ hs, lookup?_root_of_ne hroot, hinit, hsettings]
  simp

theorem get?_containerRoot (h : desired.containerParams = .ok params) (hk : desired.kind = .container)
    (hp : desired.InPlace) :
    params.get? rootSlot = (desired.config.disks.get? rootSlot).map Disk.toText := by
  obtain ⟨template, hget⟩ := get?_containerParams h hk hp
  obtain ⟨hinit, hsettings⟩ := lookup?_containerParts hk template
    (by decide : rootSlot ∉ containerSettingKeys)
  rw [hget, lookup?_nicParams_of_not_mem hp _ (by decide +kernel), hinit, hsettings, lookup?_optional,
    if_pos rfl]
  simp

/-- A request for a container does not say that it is a template. -/
theorem get?_containerTemplate (h : desired.containerParams = .ok params) (hk : desired.kind = .container)
    (hp : desired.InPlace) : params.get? "template" = none := by
  obtain ⟨template, hget⟩ := get?_containerParams h hk hp
  obtain ⟨hinit, hsettings⟩ := lookup?_containerParts hk template
    (by decide : "template" ∉ containerSettingKeys)
  rw [hget, lookup?_nicParams_of_not_mem hp _ (by decide +kernel), hinit, hsettings,
    lookup?_root_of_ne (by decide)]
  rfl

end Container

end Desired

end Steward
