/-
Where the devices of a virtual machine are looked for. An observation depends on the parameters that are
counted through and on no others, and what stands in one of those is noticed: so a parameter is scanned for
the devices of a kind exactly if it is in their list.
-/
import Mathlib
import Steward.Proofs.DrivePlacement
import Steward.Proofs.Inheritance
import Steward.Proofs.Readings
import Steward.Proofs.SlotNames

namespace Steward

/-! ## What an observation reads -/

namespace Remote

/-- The parameters that a virtual machine is observed by. -/
def readKeys : List String :=
  Plan.settingParams .vm ++ driveKeys .vm ++ Desired.nicKeys ++ Desired.initKeys

theorem observedKeys_subset_readKeys : observedKeys .vm ⊆ readKeys := by
  have hsettings : settingKeys .vm ⊆ Plan.settingParams .vm := by decide
  intro key hkey
  simp only [observedKeys, readKeys, List.mem_append] at hkey ⊢
  exact hkey.imp_left fun h => h.imp_left fun h => h.imp_left fun h => hsettings h

/-- An observation depends on no other parameters. -/
theorem observe_congr {a b : Remote} {identity : Identity} (hi : identity.kind = .vm) (status : Status)
    (h : ∀ key ∈ readKeys, a.get? key = b.get? key) :
    a.observe identity status = b.observe identity status := by
  refine observe_of_readAlike status fun key hkey => .of_get? (h key ?_)
  rw [hi] at hkey
  exact observedKeys_subset_readKeys hkey

end Remote

/-! ## Where devices are looked for -/

/-- The kinds of a virtual machine's devices, by where they are looked for. -/
inductive Device
  /-- Disks, and the drive of first-boot settings. -/
  | drive
  /-- The disks of the firmware and of the key store. -/
  | firmware
  | nic
  /-- The addresses of a network device. -/
  | address

namespace Device

/-- The names of parameters that devices of a kind are written in. -/
def Names : Device → String → Prop
  | drive, param => (parseInterface? param).isSome = true
  | firmware, param => param = firmwareSlot ∨ param = keyStoreSlot
  | nic, param => ∃ n, param = nicSlot n
  | address, param => ∃ n, param = IpConfig.slot n

/-- The parameters in which they are looked for. -/
def keys : Device → List String
  | drive => driveSlots
  | firmware => [firmwareSlot, keyStoreSlot]
  | nic => Desired.nicKeys
  | address => (List.range Remote.maxIpConfigs).map IpConfig.slot

/-- That an observation has something for a parameter. Addresses are read together with a first-boot drive. -/
def Shows (observed : Observed) : Device → String → Prop
  | drive, param => param ∈ observed.occupied.keys
  | firmware, param => param ∈ observed.config.disks.keys
  | nic, param => ∃ n < observed.config.nics.value.length, param = nicSlot n
  | address, param =>
    ∀ found ∈ observed.config.cloudInit, ∃ n < found.ipConfigs.length, param = IpConfig.slot n

/-- That a parameter is scanned for devices of a kind: whatever machine is observed, a text there is
noticed. -/
def Scans (device : Device) (param : String) : Prop :=
  ∀ (remote : Remote) (identity : Identity) (status : Status) (observed : Observed), identity.kind = .vm →
    remote.observe identity status = .ok observed → (remote.text? param).isSome = true →
    device.Shows observed param

variable {device : Device} {param : String}

/-- Of the names of a device, only those in which it is looked for are read at all. -/
theorem not_mem_readKeys (hn : device.Names param) (hk : param ∉ device.keys) :
    param ∉ Remote.readKeys := by
  simp only [Remote.readKeys, List.mem_append, not_or]
  cases device with
  | drive =>
    have hdrive : IsDriveSlot param := .inl hn
    refine ⟨⟨⟨fun h => ?_, fun h => ?_⟩, fun h => ?_⟩, fun h => ?_⟩
    · exact not_isDriveSlot_diffParams _ (List.mem_append_left _ h) hdrive
    · rcases List.mem_append.1 h with h | h
      · exact hk h
      · exact (by decide : ∀ slot ∈ [firmwareSlot, keyStoreSlot], (parseInterface? slot).isSome ≠ true) _ h hn
    · obtain ⟨n, -, rfl⟩ := List.mem_map.1 h
      exact not_isDriveSlot_nicSlot n hdrive
    · exact Plan.not_isDriveSlot_cloudInitParams _ _ h hdrive
  | firmware => exact absurd (by rcases hn with rfl | rfl <;> simp [keys]) hk
  | nic =>
    obtain ⟨n, rfl⟩ := hn
    have hnamed := Document.nicSlot_not_mem_namedParams n
    refine ⟨⟨⟨fun h => hnamed (List.mem_append_left _ h), fun h => ?_⟩, hk⟩, fun h => ?_⟩
    · exact not_isDriveSlot_nicSlot n (Plan.isDriveSlot_of_mem_driveKeys h)
    · rcases List.mem_append.1 h with h | h
      · exact hnamed (List.mem_append_right _ h)
      · obtain ⟨m, -, hm⟩ := List.mem_map.1 h
        exact Document.nicSlot_ne_ipconfigSlot n m hm.symm
  | address =>
    obtain ⟨n, rfl⟩ := hn
    have hnamed := Document.ipconfigSlot_not_mem_namedParams n
    refine ⟨⟨⟨fun h => hnamed (List.mem_append_left _ h), fun h => ?_⟩, fun h => ?_⟩, fun h => ?_⟩
    · exact not_isDriveSlot_ipconfig n (Plan.isDriveSlot_of_mem_driveKeys h)
    · obtain ⟨m, -, hm⟩ := List.mem_map.1 h
      exact Document.nicSlot_ne_ipconfigSlot m n hm
    · rcases List.mem_append.1 h with h | h
      · exact hnamed (List.mem_append_right _ h)
      · exact hk h

/-- What is written elsewhere changes no observation. -/
theorem observe_eq_of_not_mem (hn : device.Names param) (hk : param ∉ device.keys) {a b : Remote}
    (h : ∀ key, key ≠ param → a.get? key = b.get? key) {identity : Identity} (hi : identity.kind = .vm)
    (status : Status) : a.observe identity status = b.observe identity status :=
  Remote.observe_congr hi status fun key hkey => h key fun he => not_mem_readKeys hn hk (he ▸ hkey)

theorem scans_of_mem (h : param ∈ device.keys) : device.Scans param := by
  intro remote identity status observed hi ho htext
  obtain ⟨drives, firmware, hdrives, hfirmware, -, rfl⟩ := (Remote.observe_vm_eq_ok_iff hi).1 ho
  obtain ⟨text, htext⟩ := Option.isSome_iff_exists.1 htext
  have hread := (Remote.exists_observe_iff.1 ⟨_, ho⟩).1
  rw [hi] at hread
  have hcontains : remote.contains param = true := by
    rw [Remote.text?] at htext
    obtain ⟨value, hvalue, -⟩ := Option.bind_eq_some_iff.1 htext
    rw [Dict.contains_eq, hvalue]
    rfl
  have hcount {name : Nat → String} {limit n : Nat} (hn : n < limit) (hp : param = name n) :
      n < remote.slotCount name limit := by
    by_contra hle
    rw [hp, Dict.contains_eq, Remote.get?_eq_none_of_slotCount_le (by omega) hn] at hcontains
    cases hcontains
  cases device with
  | drive =>
    obtain ⟨drive, hdrive⟩ := hread param (List.mem_append_left _ h) text htext
    have hmem : (param, drive) ∈ drives := (Remote.mem_drivesIn_iff hdrives).2 ⟨h, text, htext, hdrive⟩
    refine Dict.mem_keys_ofList.2 ?_
    rw [List.map_map]
    exact List.mem_map.2 ⟨param, List.mem_map.2 ⟨_, hmem, rfl⟩, rfl⟩
  | firmware =>
    obtain ⟨drive, hdrive⟩ := hread param (List.mem_append_right _ h) text htext
    have hmem : (param, drive) ∈ firmware :=
      (Remote.mem_drivesIn_iff hfirmware).2 ⟨h, text, htext, hdrive⟩
    refine Dict.mem_keys_ofList.2 ?_
    rw [List.map_append, List.map_map]
    exact List.mem_append_right _ (List.mem_map.2 ⟨_, hmem, rfl⟩)
  | nic =>
    obtain ⟨n, hn, rfl⟩ := List.mem_map.1 h
    refine ⟨n, ?_, rfl⟩
    simpa [Remote.configWith, Remote.networkSlots] using hcount (List.mem_range.1 hn) rfl
  | address =>
    obtain ⟨n, hn, rfl⟩ := List.mem_map.1 h
    intro found hfound
    obtain ⟨⟨slot, drive⟩, -, rfl⟩ := Option.map_eq_some_iff.1 hfound
    refine ⟨n, ?_, rfl⟩
    simpa [Remote.cloudInitAt, Remote.ipConfigs] using hcount (List.mem_range.1 hn) rfl

/-- A machine with nothing but a first-boot drive. -/
def bareMachine : Remote := .ofList [("ide2", .string "local-lvm:vm-100-cloudinit,media=cdrom")]

theorem observe_bareMachine : ∃ observed,
    bareMachine.observe ⟨"pve1", 100, .vm⟩ ⟨.stopped, none⟩ = .ok observed ∧
      observed.occupied.keys = ["ide2"] ∧ observed.config.disks.keys = [] ∧
      observed.config.nics.value = [] ∧ observed.config.cloudInit.map (·.ipConfigs) = some [] :=
  ⟨_, Except.eq_ok_get (by decide +kernel), by decide +kernel, by decide +kernel, by decide +kernel,
    by decide +kernel⟩

theorem scans_iff (hn : device.Names param) : device.Scans param ↔ param ∈ device.keys := by
  refine ⟨fun hscans => ?_, scans_of_mem⟩
  by_contra hk
  obtain ⟨observed, ho, hoccupied, hdisks, hnics, haddresses⟩ := observe_bareMachine
  let written : Remote := bareMachine.insert param (.string "")
  have hsame : written.observe ⟨"pve1", 100, .vm⟩ ⟨.stopped, none⟩ = .ok observed := by
    rw [← ho]
    refine observe_eq_of_not_mem hn hk (fun key hne => ?_) rfl _
    rw [Dict.get?_insert, if_neg (Ne.symm hne)]
  have htext : (written.text? param).isSome = true := by
    rw [Remote.text?, Dict.get?_insert, if_pos rfl]
    rfl
  have hshows := hscans _ _ _ observed rfl hsame htext
  cases device with
  | drive =>
    have hslot : param = "ide2" := by simpa [Shows, hoccupied] using hshows
    exact hk (hslot ▸ (by decide +kernel : "ide2" ∈ driveSlots))
  | firmware => simp [Shows, hdisks] at hshows
  | nic => simp [Shows, hnics] at hshows
  | address =>
    obtain ⟨found, hfound, hnone⟩ := Option.map_eq_some_iff.1 haddresses
    simpa [hnone] using hshows found hfound

theorem keys_subset_readKeys : device.keys ⊆ Remote.readKeys := by
  intro key hkey
  simp only [Remote.readKeys, List.mem_append]
  cases device with
  | drive => exact .inl (.inl (.inr (List.mem_append_left _ hkey)))
  | firmware => exact .inl (.inl (.inr (List.mem_append_right _ hkey)))
  | nic => exact .inl (.inr hkey)
  | address => exact .inr (List.mem_append_right _ hkey)

/-- No device is written in the parameter of a setting. -/
theorem not_names_setting (h : param ∈ Desired.vmSettingKeys ++ Document.namedParams) :
    ¬device.Names param := by
  obtain ⟨hdrive, hnic, haddress⟩ := (by decide +kernel :
    ∀ key ∈ Desired.vmSettingKeys ++ Document.namedParams, ¬IsDriveSlot key ∧
      key.toList.take 3 ≠ "net".toList ∧ key.toList.take 8 ≠ "ipconfig".toList) param h
  intro hn
  cases device with
  | drive => exact hdrive (.inl hn)
  | firmware => exact hdrive (.inr hn)
  | nic =>
    obtain ⟨n, rfl⟩ := hn
    exact hnic (take_nicSlot n)
  | address =>
    obtain ⟨n, rfl⟩ := hn
    exact haddress (Plan.take_ipconfigSlot n)

/-- Among the slots of drives, those that are not scanned have zeros in front of their number. -/
theorem not_isPlainSlot (hn : device.Names param) (hs : IsDriveSlot param) (hk : param ∉ device.keys) :
    ¬IsPlainSlot param := by
  cases device with
  | drive => exact fun hp => hk ((mem_driveSlots_iff hn).2 hp)
  | firmware => exact absurd (by rcases hn with rfl | rfl <;> simp [keys]) hk
  | nic =>
    obtain ⟨n, rfl⟩ := hn
    exact absurd hs (not_isDriveSlot_nicSlot n)
  | address =>
    obtain ⟨n, rfl⟩ := hn
    exact absurd hs (not_isDriveSlot_ipconfig n)

end Device

end Steward
