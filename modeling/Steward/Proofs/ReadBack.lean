/-
What is written for the devices of a virtual machine, and what is read back of it. Devices are written where
the document names them and in the order in which it lists them, and they are looked for in slots that are
counted through. So what is named with zeros in front of its number, or stands too far back in a list, is
written by every pass and seen by none.
-/
import Mathlib
import Steward.Proofs.Batching
import Steward.Proofs.Scan

namespace Steward

/-! ## Where parameters are set from -/

namespace Plan

theorem mem_setParams_setOrDelete {field param key : String} {want found : Option String} :
    key ∈ setParams (setOrDelete field param want found) ↔ key = param ∧ want ≠ none ∧ want ≠ found := by
  unfold setOrDelete
  split
  · rename_i heq
    simp [setParams, Desired.settings, heq]
  · rename_i hne
    cases want with
    | none => simp [setParams, Desired.settings, Intent.delete]
    | some text => simp [setParams, Desired.settings, Intent.update, hne, eq_comm]

/-- An address is set where one is wanted that is not found. -/
theorem mem_setParams_ipConfigIntents {want found : List IpConfig} {param : String} :
    param ∈ setParams (ipConfigIntents want found) ↔ ∃ n, param = IpConfig.slot n ∧
      ipConfigText? want[n]? ≠ none ∧ ipConfigText? want[n]? ≠ ipConfigText? found[n]? := by
  have hflat : param ∈ setParams (ipConfigIntents want found) ↔
      ∃ n < max want.length found.length, param ∈ setParams
        (setOrDelete ("cloud_init.ip_config[" ++ Text.decimal n ++ "]") (IpConfig.slot n)
          (ipConfigText? want[n]?) (ipConfigText? found[n]?)) := by
    simp only [mem_setParams, ipConfigIntents, List.mem_flatMap, List.mem_range]
    constructor
    · rintro ⟨i, ⟨n, hn, hi⟩, hsets⟩
      exact ⟨n, hn, i, hi, hsets⟩
    · rintro ⟨n, hn, i, hi, hsets⟩
      exact ⟨i, ⟨n, hn, hi⟩, hsets⟩
  simp only [hflat, mem_setParams_setOrDelete]
  refine exists_congr fun n => and_iff_right_of_imp fun hset => ?_
  obtain ⟨-, hwant, -⟩ := hset
  by_contra hle
  rw [List.getElem?_eq_none (by omega)] at hwant
  exact hwant rfl

/-- What first-boot settings set besides addresses has a name of its own. -/
theorem mem_setParams_cloudInitUpdates {want : CloudInit} {found : Option CloudInit} {param : String}
    (h : param ∈ setParams (cloudInitUpdates want found)) :
    param ∈ Document.namedParams ∨
      param ∈ setParams (ipConfigIntents want.ipConfigs ((found.map (·.ipConfigs)).getD [])) := by
  have hsplit : cloudInitUpdates want found =
      cloudInitUpdates { want with ipConfigs := [] } (found.map fun c => { c with ipConfigs := [] }) ++
        ipConfigIntents want.ipConfigs ((found.map (·.ipConfigs)).getD []) := by
    cases found <;> simp [cloudInitUpdates, ipConfigIntents]
  rw [hsplit, setParams_append] at h
  refine (List.mem_append.1 h).imp_left fun h => ?_
  have hnamed := (touched_cloudInitUpdates _ _).subset ((setParams_sublist_touched _).subset h)
  cases found <;> exact List.mem_append_right _ (by simpa [cloudInitParams] using hnamed)

end Plan

namespace Desired

variable {policy : Policy} {doc : Document} {desired : Desired} {param : String}

/-- The names that a document has for its drives: those of the disks, and that of the first-boot drive. -/
def driveNames (desired : Desired) : List String :=
  desired.config.disks.keys ++ (desired.config.cloudInit.bind (·.interface)).toList

/-- That a parameter is set for an instance: when it is created, or by a pass over what is observed of it. -/
inductive Sets (desired : Desired) (param : String) : Prop
  | creation {request : CreateRequest} (hr : desired.createRequest = .ok request)
      (hp : param ∈ request.params.keys)
  | pass {remote : Remote} {identity : Identity} {status : Status} {observed : Observed} {copied : Bool}
      (hi : identity.kind = desired.kind) (ho : remote.observe identity status = .ok observed)
      (hp : param ∈ setParams (Plan.planPass desired observed copied).plan.intents)

/-- Where the parameters come from that are set for a virtual machine. -/
inductive Source (desired : Desired) (param : String) : Prop
  | setting (h : param ∈ vmSettingKeys ++ Document.namedParams)
  | named (h : param ∈ desired.driveNames)
  /-- The slot in which the first-boot drive is found, or the default one. -/
  | scanned (h : param ∈ driveSlots)
  | nic (h : param ∈ nicKeys)
  | address (n : Nat) (hp : param = IpConfig.slot n) (h : Plan.ipConfigText? desired.addresses[n]? ≠ none)

theorem addresses_of_cloudInit {want : CloudInit} (h : desired.config.cloudInit = some want) :
    desired.addresses = want.ipConfigs := by
  rw [addresses, h]
  rfl

theorem source_of_targetSlot {want : CloudInit} {found : Option CloudInit}
    (hw : desired.config.cloudInit = some want)
    (hf : ∀ slot ∈ found.bind (·.interface), slot ∈ driveSlots) :
    desired.Source (Plan.targetSlot want found) := by
  rw [Plan.targetSlot]
  cases hs : want.interface with
  | some slot => exact .named (List.mem_append_right _ (by simp [hw, hs]))
  | none =>
    cases hi : found.bind (·.interface) with
    | some slot => exact .scanned (hf slot hi)
    | none => exact .scanned (by decide +kernel)

theorem source_of_initParams {want : CloudInit} (hw : desired.config.cloudInit = some want)
    (h : param ∈ (initParams want).map (·.1)) : desired.Source param := by
  have hnamed {keys : List String} (hs : keys ⊆ Document.namedParams) (h : param ∈ keys) :
      desired.Source param := .setting (List.mem_append_right _ (hs h))
  rw [initParams, List.map_append, List.map_append, List.mem_append, List.mem_append] at h
  rcases h with (h | h) | h
  · exact hnamed (by decide) ((keys_accountParams _).subset h)
  · exact hnamed (by decide) ((keys_resolverParams _).subset h)
  · obtain ⟨⟨key, value⟩, hentry, rfl⟩ := List.mem_map.1 h
    obtain ⟨n, -, htext⟩ := List.mem_filterMap.1 hentry
    obtain ⟨text, hn, heq⟩ := Option.map_eq_some_iff.1 htext
    cases heq
    exact .address n rfl (by rw [addresses_of_cloudInit hw, hn]; exact Option.some_ne_none _)

theorem source_of_create (hd : doc.desired policy = .ok desired) (hk : desired.kind = .vm)
    {request : CreateRequest} (hr : desired.createRequest = .ok request)
    (hp : param ∈ request.params.keys) : desired.Source param := by
  rw [createRequest, hk] at hr
  obtain ⟨params, hparams, rfl⟩ := Except.map_eq_ok_iff.1 hr
  have hget := get?_addParams hparams param
  have hkey : (params.get? param).isSome = true := Dict.mem_keys_iff.1 hp
  rw [hget, Option.isSome_or, Bool.or_eq_true] at hkey
  rcases hkey with hkey | hkey
  · have hmem := Dict.mem_keys_ofList.1 (Dict.mem_keys_iff.2 hkey)
    have hparts : (desired.commonParams ++ desired.vmHardwareParams ++ desired.vmMachineParams ++
        desired.vmDeviceParams).map (·.1) = desired.vmSettings.map (·.1) ++ (desired.diskParams.map (·.1) ++
          (nicParams desired.config.nics.value fun _ nic => nic.toText).map (·.1)) := by
      rw [List.map_append]
      exact congrArg _ List.map_append
    rw [hparts, List.mem_append, List.mem_append, keys_diskParams] at hmem
    rcases hmem with h | h | h
    · exact .setting (List.mem_append_left _ ((keys_vmSettings hk).subset h))
    · exact .named (List.mem_append_left _ h)
    · exact .nic ((keys_nicParams (Document.config_declared hd).nics _).subset h)
  · cases hw : desired.config.cloudInit with
    | none =>
      rw [cloudInitParams_none hw] at hkey
      cases hkey
    | some want =>
      obtain ⟨value, hvalue⟩ := Option.isSome_iff_exists.1 hkey
      have hmem := mem_of_lookup? hvalue
      rw [cloudInitParams_some hw] at hmem
      rcases List.mem_cons.1 hmem with h | h
      · cases h
        exact source_of_targetSlot hw (by simp)
      · exact source_of_initParams hw (List.mem_map_of_mem (f := (·.1)) h)

/-- Of what a pass sets, only the slots of drives and the addresses follow the document. -/
theorem source_of_pass (hd : doc.desired policy = .ok desired) {remote : Remote} {identity : Identity}
    {status : Status} {observed : Observed} {copied : Bool} (hi : identity.kind = .vm)
    (ho : remote.observe identity status = .ok observed)
    (hp : param ∈ setParams (Plan.planPass desired observed copied).plan.intents) :
    desired.Source param := by
  have hfound : ∀ slot ∈ observed.config.cloudInit.bind (·.interface), slot ∈ driveSlots := by
    intro slot hslot
    rw [Plan.interface_found (Remote.cloudInit_of_observe ho hi)] at hslot
    exact List.mem_of_find?_eq_some hslot
  rw [Plan.setParams_planPass ho hi, List.mem_append, List.mem_append, setParams_append,
    List.mem_append] at hp
  rcases hp with (h | h | h) | h
  · obtain ⟨want, hw, -, rfl⟩ := Plan.attachSlot?_eq_some_iff.1 (Option.mem_toList.1 h)
    exact source_of_targetSlot hw hfound
  · rw [Plan.passCloudInit_vm desired ho hi] at h
    cases hw : desired.config.cloudInit with
    | none =>
      rw [hw] at h
      cases h
    | some want =>
      rw [hw] at h
      rcases Plan.mem_setParams_cloudInitUpdates h with h | h
      · exact .setting (List.mem_append_right _ h)
      · obtain ⟨n, hn, hwant, -⟩ := Plan.mem_setParams_ipConfigIntents.1 h
        exact .address n hn (by rwa [addresses_of_cloudInit hw])
  · have hdiff := (Plan.touched_passDiff hd copied ho).subset ((setParams_sublist_touched _).subset h)
    rw [hi] at hdiff
    rcases List.mem_append.1 hdiff with h | h
    · exact .setting (List.mem_append_right _ (List.mem_append_left _ h))
    · exact .nic h
  · exact .named (List.mem_append_left _
      ((Plan.touched_planDisks _ _ _).subset ((setParams_sublist_touched _).subset h)))

theorem source_of_sets (hd : doc.desired policy = .ok desired) (hk : desired.kind = .vm)
    (h : desired.Sets param) : desired.Source param := by
  cases h with
  | creation hr hp => exact source_of_create hd hk hr hp
  | pass hi ho hp => exact source_of_pass hd (hi.trans hk) ho hp

/-! ## What is never read back -/

/-- What is written beyond the slots that are counted through: a drive whose name has zeros in front of its
number, and an address behind the last one that there can be. -/
inductive Unseen (desired : Desired) : String → Prop
  | padded {name : String} (h : name ∈ desired.driveNames) (hp : ¬IsPlainSlot name) : Unseen desired name
  | beyond {n : Nat} (hn : Remote.maxIpConfigs ≤ n) (h : Plan.ipConfigText? desired.addresses[n]? ≠ none) :
    Unseen desired (IpConfig.slot n)

theorem isSome_of_not_isPlainSlot {name : String} (h : ¬IsPlainSlot name) :
    (parseInterface? name).isSome = true := by
  by_contra hnone
  rw [Bool.not_eq_true, Option.isSome_eq_false_iff, Option.isNone_iff_eq_none] at hnone
  exact h fun slot hslot => by simp [hnone] at hslot

theorem not_mem_keys_of_unseen (h : desired.Unseen param) :
    ∃ device : Device, device.Names param ∧ param ∉ device.keys := by
  cases h with
  | padded hname hp =>
    have hparse := isSome_of_not_isPlainSlot hp
    exact ⟨.drive, hparse, fun hmem => hp ((mem_driveSlots_iff hparse).1 hmem)⟩
  | beyond hn h =>
    refine ⟨.address, ⟨_, rfl⟩, fun hmem => ?_⟩
    obtain ⟨m, hm, heq⟩ := List.mem_map.1 hmem
    have hlt := List.mem_range.1 hm
    rw [Text.append_decimal_inj.1 heq] at hlt
    omega

theorem isDriveSlot_of_driveNames (hd : doc.desired policy = .ok desired) (hk : desired.kind = .vm)
    (h : param ∈ desired.driveNames) : IsDriveSlot param := by
  rcases List.mem_append.1 h with h | h
  · exact Plan.isDriveSlot_of_disks hd hk h
  · obtain ⟨want, hw, hs⟩ := Option.bind_eq_some_iff.1 (Option.mem_toList.1 h)
    exact .inl (Plan.declared_interface hd hk hw hs).1

/-- What is set for a device is read back exactly if it is in a slot that is counted through. -/
theorem scans_iff_not_unseen (hd : doc.desired policy = .ok desired) (hk : desired.kind = .vm)
    (hs : desired.Sets param) {device : Device} (hn : device.Names param) :
    device.Scans param ↔ ¬desired.Unseen param := by
  rw [Device.scans_iff hn]
  constructor
  · intro hmem hunseen
    obtain ⟨other, hother, hnot⟩ := not_mem_keys_of_unseen hunseen
    exact Device.not_mem_readKeys hother hnot (Device.keys_subset_readKeys hmem)
  · intro hseen
    cases source_of_sets hd hk hs with
    | setting h => exact absurd hn (Device.not_names_setting h)
    | named h =>
      by_contra hmem
      have hpadded := Device.not_isPlainSlot hn (isDriveSlot_of_driveNames hd hk h) hmem
      exact hseen (.padded h hpadded)
    | scanned h =>
      by_contra hmem
      have hpadded := Device.not_isPlainSlot hn (Plan.isDriveSlot_of_mem_driveSlots h) hmem
      exact hpadded (isPlainSlot_driveSlots param h)
    | nic h =>
      obtain ⟨n, hlt, rfl⟩ := List.mem_map.1 h
      cases device with
      | drive => exact absurd (.inl hn) (not_isDriveSlot_nicSlot n)
      | firmware => exact absurd (.inr hn) (not_isDriveSlot_nicSlot n)
      | nic => exact h
      | address =>
        obtain ⟨m, hm⟩ := hn
        exact absurd hm (Document.nicSlot_ne_ipconfigSlot n m)
    | address n hp hwant =>
      subst hp
      cases device with
      | drive => exact absurd (.inl hn) (not_isDriveSlot_ipconfig n)
      | firmware => exact absurd (.inr hn) (not_isDriveSlot_ipconfig n)
      | nic =>
        obtain ⟨m, hm⟩ := hn
        exact absurd hm.symm (Document.nicSlot_ne_ipconfigSlot m n)
      | address =>
        refine List.mem_map_of_mem (List.mem_range.2 ?_)
        by_contra hle
        exact hseen (.beyond (Nat.not_lt.1 hle) hwant)

section Pass

variable {remote : Remote} {identity : Identity} {status : Status} {observed : Observed}

/-- A declared disk that is not found is written. -/
theorem mem_setParams_of_disk {disk : Disk} (hdisk : desired.config.disks.get? param = some disk)
    (hnone : observed.config.disks.get? param = none) :
    param ∈ setParams (Plan.passDisks desired observed).updates := by
  have hupdates : .update (Plan.diskField param) param disk.toText .create ∈
      (Plan.passDisks desired observed).updates := by
    rw [Plan.passDisks, Plan.updates_planDisks]
    refine List.mem_flatMap.2 ⟨(param, disk), Dict.mem_entries_iff.2 hdisk, ?_⟩
    rw [hnone]
    exact List.mem_singleton.2 rfl
  exact mem_setParams.2 ⟨_, hupdates, _, _, rfl⟩

/-- A drive that is wanted in a slot with leading zeros is attached there, wherever it is found. -/
theorem attachSlot?_of_not_isPlainSlot {want : CloudInit} (hi : identity.kind = .vm)
    (ho : remote.observe identity status = .ok observed) (hw : desired.config.cloudInit = some want)
    (hs : want.interface = some param) (hp : ¬IsPlainSlot param) :
    Plan.attachSlot? desired.config.cloudInit observed.config.cloudInit = some param := by
  have htarget : Plan.targetSlot want observed.config.cloudInit = param := by
    rw [Plan.targetSlot, hs]
    rfl
  have hmoved : observed.config.cloudInit.bind (·.interface) ≠ some param := by
    rw [Plan.interface_found (Remote.cloudInit_of_observe ho hi)]
    intro hfound
    exact hp (isPlainSlot_driveSlots _ (List.mem_of_find?_eq_some hfound))
  have hrelocation : Plan.needsRelocation want observed.config.cloudInit = true := by
    simp [Plan.needsRelocation, htarget, hmoved]
  exact Plan.attachSlot?_eq_some_iff.2 ⟨want, hw, hrelocation, htarget⟩

/-- Addresses beyond those that are read are not found. -/
theorem addresses_found_eq_none (hi : identity.kind = .vm) (ho : remote.observe identity status = .ok observed)
    {n : Nat} (hn : Remote.maxIpConfigs ≤ n) :
    ((observed.config.cloudInit.map (·.ipConfigs)).getD [])[n]? = none := by
  rw [Remote.cloudInit_of_observe ho hi, Option.map_map]
  refine List.getElem?_eq_none ?_
  cases driveSlots.find? (remote.generated identity.id) with
  | none => simp
  | some slot => simpa [Remote.cloudInitAt, Remote.ipConfigs] using
      (remote.slotCount_le IpConfig.slot Remote.maxIpConfigs).trans hn

/-- What is never read back is set again by every pass. -/
theorem sets_of_unseen (hi : identity.kind = .vm) (ho : remote.observe identity status = .ok observed)
    (copied : Bool) (h : desired.Unseen param) :
    param ∈ setParams (Plan.planPass desired observed copied).plan.intents := by
  obtain ⟨device, hn, hnot⟩ := not_mem_keys_of_unseen h
  have hunread := Device.not_mem_readKeys hn hnot
  rw [Plan.setParams_planPass ho hi, List.mem_append, List.mem_append, setParams_append, List.mem_append]
  cases h with
  | padded hname hp =>
    rcases List.mem_append.1 hname with hname | hname
    · obtain ⟨disk, hdisk⟩ := Option.isSome_iff_exists.1 (Dict.mem_keys_iff.1 hname)
      have hnone : observed.config.disks.get? param = none := by
        cases hfound : observed.config.disks.get? param with
        | none => rfl
        | some found =>
          have hslot := ((Remote.get?_disks_of_observe ho).1 hfound).1
          rw [hi] at hslot
          exact absurd (by simp [Remote.readKeys, hslot]) hunread
      exact .inr (mem_setParams_of_disk hdisk hnone)
    · obtain ⟨want, hw, hs⟩ := Option.bind_eq_some_iff.1 (Option.mem_toList.1 hname)
      exact .inl (.inl (Option.mem_toList.2 (attachSlot?_of_not_isPlainSlot hi ho hw hs hp)))
  | @beyond n hle hwant =>
    cases hw : desired.config.cloudInit with
    | none =>
      rw [addresses, hw] at hwant
      exact absurd rfl hwant
    | some want =>
      rw [addresses_of_cloudInit hw] at hwant
      have hset : IpConfig.slot n ∈ setParams (Plan.ipConfigIntents want.ipConfigs
          ((observed.config.cloudInit.map (·.ipConfigs)).getD [])) :=
        Plan.mem_setParams_ipConfigIntents.2
          ⟨n, rfl, hwant, by rw [addresses_found_eq_none hi ho hle]; exact hwant⟩
      refine .inl (.inr (.inl ?_))
      rw [Plan.passCloudInit_vm desired ho hi, hw]
      change _ ∈ setParams (Plan.cloudInitUpdates want _)
      rw [Plan.cloudInitUpdates, setParams_append]
      exact List.mem_append_right _ hset

/-- The names of a document's drives are all different as texts. -/
theorem nodup_driveNames (hd : doc.desired policy = .ok desired) (hk : desired.kind = .vm) :
    desired.driveNames.Nodup := by
  refine List.Nodup.append desired.config.disks.nodup_keys ?_ fun name hdisk hinit => ?_
  · cases desired.config.cloudInit.bind (·.interface) <;> simp
  · obtain ⟨want, hw, hs⟩ := Option.bind_eq_some_iff.1 (Option.mem_toList.1 hinit)
    exact (Plan.declared_interface hd hk hw hs).2 hdisk

end Pass

/-- Of two names for one slot, one is not the name that is scanned. -/
theorem same_slot_names_iff {a b : String} (ha : a ∈ desired.driveNames) (hb : b ∈ desired.driveNames)
    (hne : a ≠ b) (bus : Bus) (slot : Nat) :
    (parseInterface? a = some (bus, slot) ∧ parseInterface? b = some (bus, slot)) ↔
      slot ≤ bus.lastSlot ∧ (desired.Unseen a ∨ desired.Unseen b) ∧
        ∃ j k, a = bus.paddedName j slot ∧ b = bus.paddedName k slot := by
  simp only [parseInterface?_eq_some_iff]
  constructor
  · rintro ⟨⟨hle, j, hj⟩, -, k, hk⟩
    refine ⟨hle, ?_, j, k, hj, hk⟩
    by_cases hzero : j = 0
    · have hpadded : k ≠ 0 := fun he => hne (by rw [hj, hk, hzero, he])
      exact .inr (.padded hb (by rwa [hk, isPlainSlot_paddedName hle]))
    · exact .inl (.padded ha (by rwa [hj, isPlainSlot_paddedName hle]))
  · rintro ⟨hle, -, j, k, hj, hk⟩
    exact ⟨⟨hle, j, hj⟩, hle, k, hk⟩

/-- Whatever is set for a device of a virtual machine, when it is created or by a pass, is in a parameter that
is scanned for such devices, unless it is a drive with zeros in front of its number or an address behind the
last one that is looked at. Those are set again by every pass, and no observation depends on them. The names
of a document's drives are all different, but only as texts: two of them are names of one slot exactly if they
differ in the zeros in front of its number, and then one of them is never read back. -/
theorem devices_read_back_iff (hd : doc.desired policy = .ok desired) (hk : desired.kind = .vm) :
    (∀ param, desired.Sets param → ∀ device : Device, device.Names param →
      (device.Scans param ↔ ¬desired.Unseen param)) ∧
    (∀ param, desired.Unseen param → ∀ (remote : Remote) identity status observed copied,
      identity.kind = .vm → remote.observe identity status = .ok observed →
        param ∈ setParams (Plan.planPass desired observed copied).plan.intents ∧
          ∀ other : Remote, (∀ key, key ≠ param → other.get? key = remote.get? key) →
            other.observe identity status = .ok observed) ∧
    desired.driveNames.Nodup ∧
    ∀ a ∈ desired.driveNames, ∀ b ∈ desired.driveNames, a ≠ b → ∀ bus slot,
      (parseInterface? a = some (bus, slot) ∧ parseInterface? b = some (bus, slot)) ↔
        slot ≤ bus.lastSlot ∧ (desired.Unseen a ∨ desired.Unseen b) ∧
          ∃ j k, a = bus.paddedName j slot ∧ b = bus.paddedName k slot := by
  refine ⟨fun param hs device hn => scans_iff_not_unseen hd hk hs hn,
    fun param hu remote identity status observed copied hi ho => ⟨sets_of_unseen hi ho copied hu, ?_⟩,
    nodup_driveNames hd hk, fun a ha b hb hne bus slot => same_slot_names_iff ha hb hne bus slot⟩
  intro other hother
  obtain ⟨device, hn, hnot⟩ := not_mem_keys_of_unseen hu
  rw [← ho]
  exact Device.observe_eq_of_not_mem hn hnot hother hi status

end Desired

/-- A server with two names for one slot and one address too many. -/
def paddedServer : Document where
  node := "pve1"
  id := some 100
  system := some { osType := some "l26" }
  disks := [{ interface := "scsi1" }, { interface := "scsi01" }]
  init := some { ipConfigs := List.replicate 33 { ipv4 := some { address := some "dhcp" } } }

/-- The server with everything stored that was asked for. -/
def paddedServerFound : Remote := .ofList
  ([("scsi1", .string "local-lvm:vm-100-disk-0,size=8G"),
    ("scsi01", .string "local-lvm:vm-100-disk-1,size=8G"),
    ("ide2", .string "local-lvm:vm-100-cloudinit,media=cdrom")] ++
    (List.range 33).map fun n => (IpConfig.slot n, .string "ip=dhcp"))

theorem devices_read_back_paddedServer :
    ∃ desired observed, paddedServer.desired {} = .ok desired ∧ desired.kind = .vm ∧
      paddedServerFound.observe ⟨"pve1", 100, .vm⟩ ⟨.stopped, none⟩ = .ok observed ∧
      "scsi01" ∈ setParams (Plan.planPass desired observed false).plan.intents ∧
      "ipconfig32" ∈ setParams (Plan.planPass desired observed false).plan.intents ∧
      ¬Device.drive.Scans "scsi01" ∧ ¬Device.address.Scans "ipconfig32" ∧
      parseInterface? "scsi1" = some (.scsi, 1) ∧ parseInterface? "scsi01" = some (.scsi, 1) := by
  obtain ⟨desired, hd⟩ : ∃ desired, paddedServer.desired {} = .ok desired := ⟨_, rfl⟩
  have hk : desired.kind = .vm := by cases hd; rfl
  have ho : paddedServerFound.observe ⟨"pve1", 100, .vm⟩ ⟨.stopped, none⟩ = .ok _ :=
    Except.eq_ok_get (by decide +kernel)
  have hplain : "scsi1" ∈ desired.driveNames := by cases hd; decide +kernel
  have hpadded : "scsi01" ∈ desired.driveNames := by cases hd; decide +kernel
  have hdrive : desired.Unseen "scsi01" := .padded hpadded (by decide +kernel)
  have haddress : desired.Unseen "ipconfig32" := .beyond (n := 32) le_rfl (by cases hd; decide +kernel)
  obtain ⟨hscans, hset, -, hnames⟩ := Desired.devices_read_back_iff hd hk
  have hdriveSet := (hset _ hdrive _ _ _ _ false rfl ho).1
  have haddressSet := (hset _ haddress _ _ _ _ false rfl ho).1
  have hname : Device.drive.Names "scsi01" :=
    (by decide +kernel : (parseInterface? "scsi01").isSome = true)
  exact ⟨desired, _, hd, hk, ho, hdriveSet, haddressSet,
    fun h => (hscans _ (.pass hk.symm ho hdriveSet) _ hname).1 h hdrive,
    fun h => (hscans _ (.pass hk.symm ho haddressSet) .address ⟨32, rfl⟩).1 h haddress,
    (hnames _ hplain _ hpadded (by decide) .scsi 1).2
      ⟨by decide, .inr hdrive, 0, 1, by decide, by decide⟩⟩

end Steward
