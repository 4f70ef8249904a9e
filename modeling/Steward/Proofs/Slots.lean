/-
An observation slot by slot: each network slot of an observed instance holds what its own parameter
says, whatever the other parameters are, and an instance can be observed if each of its drives and each of
its network slots can be read.
-/
import Mathlib
import Steward.Observed
import Steward.Proofs.Nic

namespace Steward

/-! ## How many slots are in use -/

namespace Remote

theorem slotCount_succ (remote : Remote) (name : Nat → String) (limit : Nat) :
    remote.slotCount name (limit + 1) =
      if remote.contains (name limit) then limit + 1 else remote.slotCount name limit := by
  rw [slotCount, List.range_succ, List.reverse_append, List.reverse_singleton, List.singleton_append,
    List.find?_cons]
  cases h : remote.contains (name limit) <;> simp [slotCount]

theorem slotCount_le (remote : Remote) (name : Nat → String) (limit : Nat) :
    remote.slotCount name limit ≤ limit := by
  induction limit with
  | zero => simp [slotCount]
  | succ limit ih =>
    rw [slotCount_succ]
    split <;> omega

/-- Nothing is reported behind the last slot in use. -/
theorem get?_eq_none_of_slotCount_le {remote : Remote} {name : Nat → String} {limit slot : Nat}
    (h : remote.slotCount name limit ≤ slot) (hlt : slot < limit) : remote.get? (name slot) = none := by
  induction limit with
  | zero => omega
  | succ limit ih =>
    rw [slotCount_succ] at h
    split at h
    · omega
    · rename_i hc
      by_cases hs : slot = limit
      · subst hs
        simpa [Dict.contains_eq] using hc
      · exact ih h (by omega)

end Remote

/-! ## What a network slot holds -/

/-- The device that a kind of instance reads from a network parameter, and the addresses of its guest. -/
def Kind.readNic : Kind → String → Except Fault (Nic × IpConfig)
  | .vm, text => (Nic.ofText text).map fun nic => (nic, .none)
  | .container, text => Nic.ofContainerText text

/-- What a value of a network parameter says, nothing if it cannot be read. -/
def Kind.seenIn (kind : Kind) (value : Option Json) : Option (Nic × IpConfig) :=
  (value.bind Remote.textOf?).bind fun text => (kind.readNic text).toOption

def Kind.Readable (kind : Kind) (value : Option Json) : Prop :=
  ∀ text ∈ value.bind Remote.textOf?, ∃ seen, kind.readNic text = .ok seen

theorem Kind.wasRead_of_readNic {kind : Kind} {text : String} {seen : Nic × IpConfig}
    (h : kind.readNic text = .ok seen) : seen.1.WasRead ∧ seen.2.Writable := by
  cases kind with
  | vm =>
    obtain ⟨nic, hnic, rfl⟩ := Except.map_eq_ok_iff.1 h
    exact ⟨(Nic.wasRead_of_ofText hnic).1, IpConfig.writable_none⟩
  | container => exact Nic.wasRead_of_ofContainerText h

theorem Kind.wasRead_of_seenIn {kind : Kind} {value : Option Json} {seen : Nic × IpConfig}
    (h : kind.seenIn value = some seen) : seen.1.WasRead ∧ seen.2.Writable := by
  obtain ⟨text, -, htext⟩ := Option.bind_eq_some_iff.1 h
  cases hr : kind.readNic text with
  | error fault => simp [hr, Except.toOption] at htext
  | ok found =>
    obtain rfl : found = seen := by simpa [hr, Except.toOption] using htext
    exact wasRead_of_readNic hr

namespace Remote

/-- The slots are read one by one, each from its own parameter. -/
theorem nicsFrom_eq_ok_iff {α : Type} {remote : Remote} {read : String → Except Fault α} {absent : α}
    {slots : List Nat} {nics : List α} :
    remote.nicsFrom read absent slots = .ok nics ↔
      (∀ slot ∈ slots, ∀ text ∈ remote.text? (nicSlot slot), ∃ nic, read text = .ok nic) ∧
        nics = slots.map fun slot =>
          ((remote.text? (nicSlot slot)).bind fun text => (read text).toOption).getD absent := by
  induction slots generalizing nics with
  | nil => simp [nicsFrom, eq_comm]
  | cons slot slots ih =>
    rw [nicsFrom]
    cases htext : remote.text? (nicSlot slot) with
    | none =>
      simp only [Except.bind_eq_ok_iff, Except.ok.injEq, exists_eq_left', ih, List.forall_mem_cons,
        List.map_cons, htext]
      simp [eq_comm]
    | some text =>
      cases hread : read text with
      | error fault =>
        simp [decoded, Except.bind_eq_ok_iff, htext, hread]
      | ok nic =>
        simp only [decoded, hread, Except.bind_eq_ok_iff, Except.ok.injEq, exists_eq_left', ih,
          List.forall_mem_cons, List.map_cons, htext]
        simp [hread, Except.toOption, eq_comm]

/-- The slots up to the last one in use, by what each parameter says. -/
def networkSlots (remote : Remote) (kind : Kind) : List (Nic × IpConfig) :=
  (List.range (remote.slotCount nicSlot maxNics)).map fun slot =>
    (kind.seenIn (remote.get? (nicSlot slot))).getD (.disabled, .none)

theorem length_networkSlots_le (remote : Remote) (kind : Kind) :
    (remote.networkSlots kind).length ≤ maxNics := by
  simpa [networkSlots] using remote.slotCount_le nicSlot maxNics

/-- A slot, in use or not, by its parameter alone. -/
theorem getD_networkSlots (remote : Remote) (kind : Kind) {slot : Nat} (h : slot < maxNics) :
    (remote.networkSlots kind)[slot]?.getD (.disabled, .none) =
      (kind.seenIn (remote.get? (nicSlot slot))).getD (.disabled, .none) := by
  by_cases hc : slot < remote.slotCount nicSlot maxNics
  · simp [networkSlots, hc]
  · have hnone : remote.get? (nicSlot slot) = none := get?_eq_none_of_slotCount_le (by omega) h
    simp [networkSlots, hc, hnone, Kind.seenIn]

theorem filter_enabled_networkSlots (remote : Remote) (kind : Kind) {slot : Nat} (h : slot < maxNics) :
    (((remote.networkSlots kind).map (·.1))[slot]?).filter Nic.enabled =
      (kind.seenIn (remote.get? (nicSlot slot))).map (·.1) := by
  have hgetD := getD_networkSlots remote kind h
  have hdisabled : Nic.disabled.enabled = false := rfl
  cases hs : kind.seenIn (remote.get? (nicSlot slot)) with
  | none =>
    cases hg : (remote.networkSlots kind)[slot]? with
    | none => simp [hg]
    | some seen =>
      obtain rfl : seen = (.disabled, .none) := by simpa [hs, hg] using hgetD
      simp [hg, Option.filter_some, hdisabled]
  | some seen =>
    have hread := (Kind.wasRead_of_seenIn hs).1
    cases hg : (remote.networkSlots kind)[slot]? with
    | none =>
      obtain rfl : (.disabled, .none) = seen := by simpa [hs, hg] using hgetD
      exact absurd hread.enabled (by decide)
    | some found =>
      obtain rfl : found = seen := by simpa [hs, hg] using hgetD
      simp [hg, Option.filter_some, hread.enabled]

theorem getD_addresses_networkSlots (remote : Remote) (kind : Kind) {slot : Nat} (h : slot < maxNics) :
    (((remote.networkSlots kind).map (·.2))[slot]?).getD .none =
      ((kind.seenIn (remote.get? (nicSlot slot))).map (·.2)).getD .none := by
  have hgetD := congrArg Prod.snd (getD_networkSlots remote kind h)
  cases hs : kind.seenIn (remote.get? (nicSlot slot)) <;>
    cases hg : (remote.networkSlots kind)[slot]? <;> simp_all

theorem forall_readable_iff {remote : Remote} {kind : Kind} :
    (∀ slot ∈ List.range (remote.slotCount nicSlot maxNics), ∀ text ∈ remote.text? (nicSlot slot),
        ∃ seen, kind.readNic text = .ok seen) ↔
      ∀ slot < maxNics, kind.Readable (remote.get? (nicSlot slot)) := by
  constructor
  · intro h slot hslot
    by_cases hc : slot < remote.slotCount nicSlot maxNics
    · exact h slot (List.mem_range.2 hc)
    · have hnone : remote.get? (nicSlot slot) = none := get?_eq_none_of_slotCount_le (by omega) hslot
      simp [Kind.Readable, hnone]
  · intro h slot hslot
    exact h slot (Nat.lt_of_lt_of_le (List.mem_range.1 hslot) (slotCount_le _ _ _))

theorem allNics_vm_eq_ok_iff {remote : Remote} {nics : List Nic} :
    remote.allNics Nic.ofText .disabled = .ok nics ↔
      (∀ slot < maxNics, Kind.vm.Readable (remote.get? (nicSlot slot))) ∧
        nics = (remote.networkSlots .vm).map (·.1) := by
  have hreadable : ∀ text, (∃ nic, Nic.ofText text = .ok nic) ↔ ∃ seen, Kind.vm.readNic text = .ok seen := by
    intro text
    cases hr : Nic.ofText text <;> simp [Kind.readNic, hr, Except.map]
  have hslot : ∀ slot, ((remote.text? (nicSlot slot)).bind fun text => (Nic.ofText text).toOption).getD
      .disabled = ((Kind.vm.seenIn (remote.get? (nicSlot slot))).getD (.disabled, .none)).1 := by
    intro slot
    rw [Kind.seenIn, ← text?]
    cases remote.text? (nicSlot slot) with
    | none => rfl
    | some text => cases hr : Nic.ofText text <;> simp [Kind.readNic, hr, Except.map, Except.toOption]
  rw [allNics, nicsFrom_eq_ok_iff, ← forall_readable_iff]
  simp only [hreadable, hslot, networkSlots, List.map_map, Function.comp_def]

theorem allNics_container_eq_ok_iff {remote : Remote} {nics : List (Nic × IpConfig)} :
    remote.allNics Nic.ofContainerText (.disabled, .none) = .ok nics ↔
      (∀ slot < maxNics, Kind.container.Readable (remote.get? (nicSlot slot))) ∧
        nics = remote.networkSlots .container := by
  rw [allNics, nicsFrom_eq_ok_iff, ← forall_readable_iff]
  rfl

/-! ## Observations -/

/-- The drives are read one by one, each from its own parameter. -/
theorem drivesIn_eq_ok_iff {remote : Remote} {slots : List String} {drives : List (String × Drive)} :
    remote.drivesIn slots = .ok drives ↔
      (∀ slot ∈ slots, ∀ text ∈ remote.text? slot, ∃ drive, Drive.ofText slot text = .ok drive) ∧
        drives = slots.filterMap fun slot =>
          ((remote.text? slot).bind fun text => (Drive.ofText slot text).toOption).map fun drive =>
          (slot, drive) := by
  induction slots generalizing drives with
  | nil => simp [drivesIn, eq_comm]
  | cons slot slots ih =>
    rw [drivesIn]
    cases htext : remote.text? slot with
    | none =>
      simp only [ih, List.forall_mem_cons, List.filterMap_cons, htext]
      simp
    | some text =>
      cases hread : Drive.ofText slot text with
      | error fault => simp [decoded, Except.bind_eq_ok_iff, htext, hread]
      | ok drive =>
        simp only [decoded, hread, Except.bind_eq_ok_iff, Except.ok.injEq, exists_eq_left', ih,
          List.forall_mem_cons, List.filterMap_cons, htext]
        simp [hread, Except.toOption, eq_comm]

theorem mem_drivesIn_iff {remote : Remote} {slots : List String} {drives : List (String × Drive)}
    (h : remote.drivesIn slots = .ok drives) {slot : String} {drive : Drive} :
    (slot, drive) ∈ drives ↔
      slot ∈ slots ∧ ∃ text, remote.text? slot = some text ∧ Drive.ofText slot text = .ok drive := by
  obtain ⟨-, rfl⟩ := drivesIn_eq_ok_iff.1 h
  rw [List.mem_filterMap]
  constructor
  · rintro ⟨s, hs, hfound⟩
    obtain ⟨found, hread, heq⟩ := Option.map_eq_some_iff.1 hfound
    cases heq
    obtain ⟨text, htext, hok⟩ := Option.bind_eq_some_iff.1 hread
    exact ⟨hs, text, htext, Except.toOption_eq_some_iff.1 hok⟩
  · rintro ⟨hs, text, htext, hread⟩
    exact ⟨slot, hs, by simp [htext, hread, Except.toOption]⟩

theorem keys_drivesIn {remote : Remote} {slots : List String} {drives : List (String × Drive)}
    (h : remote.drivesIn slots = .ok drives) : (drives.map (·.1)).Sublist slots := by
  obtain ⟨-, rfl⟩ := drivesIn_eq_ok_iff.1 h
  simpa using keys_filterMap id (fun slot => (remote.text? slot).bind fun text =>
    (Drive.ofText slot text).toOption) slots

/-- What an observed instance is made of: drives that were read, and the network slots. -/
theorem observe_vm_eq_ok_iff {remote : Remote} {identity : Identity} {status : Status} {observed : Observed}
    (hk : identity.kind = .vm) :
    remote.observe identity status = .ok observed ↔
      ∃ drives firmware, remote.drivesIn driveSlots = .ok drives ∧
        remote.drivesIn [firmwareSlot, keyStoreSlot] = .ok firmware ∧
        (∀ slot < maxNics, Kind.vm.Readable (remote.get? (nicSlot slot))) ∧
        observed = ⟨identity, remote.configWith .vm status
          { disks := .ofList (disksAmong drives ++ firmware.map fun (slot, drive) => (slot, drive.disk))
            cloudInit := (cloudInitDrive? identity.id drives).map fun (slot, drive) =>
              remote.cloudInitAt slot drive.disk.datastore
            occupied := .ofList (drives.map (·.1))
            nics := ⟨(remote.networkSlots .vm).map (·.1), slotsOrigin (remote.networkSlots .vm).length⟩ },
          status, .ofList (drives.map (·.1))⟩ := by
  simp only [observe, devices, hk, vmDevices, Except.bind_eq_ok_iff, allNics_vm_eq_ok_iff, Except.ok.injEq]
  constructor
  · rintro ⟨d, ⟨drives, hdrives, firmware, hfirmware, nics, ⟨hread, rfl⟩, rfl⟩, rfl⟩
    exact ⟨drives, firmware, hdrives, hfirmware, hread, by simp⟩
  · rintro ⟨drives, firmware, hdrives, hfirmware, hread, rfl⟩
    exact ⟨_, ⟨drives, hdrives, firmware, hfirmware, _, ⟨hread, rfl⟩, rfl⟩, by simp⟩

theorem observe_container_eq_ok_iff {remote : Remote} {identity : Identity} {status : Status}
    {observed : Observed} (hk : identity.kind = .container) :
    remote.observe identity status = .ok observed ↔
      ∃ root, remote.drivesIn [rootSlot] = .ok root ∧
        (∀ slot < maxNics, Kind.container.Readable (remote.get? (nicSlot slot))) ∧
        observed = ⟨identity, remote.configWith .container status
          { disks := .ofList (root.map fun (slot, drive) => (slot, drive.disk))
            cloudInit := some ⟨"", none, remote.resolver, (remote.networkSlots .container).map (·.2), none⟩
            occupied := .empty
            nics := ⟨(remote.networkSlots .container).map (·.1),
            slotsOrigin (remote.networkSlots .container).length⟩ },
          status, .empty⟩ := by
  simp only [observe, devices, hk, containerDevices, Except.bind_eq_ok_iff, allNics_container_eq_ok_iff,
    Except.ok.injEq]
  constructor
  · rintro ⟨d, ⟨nics, ⟨hread, rfl⟩, root, hroot, rfl⟩, rfl⟩
    exact ⟨root, hroot, hread, rfl⟩
  · rintro ⟨root, hroot, hread, rfl⟩
    exact ⟨_, ⟨_, ⟨hread, rfl⟩, root, hroot, rfl⟩, rfl⟩

/-- Where the drives of a kind of instance are looked for. -/
def driveKeys : Kind → List String
  | .vm => driveSlots ++ [firmwareSlot, keyStoreSlot]
  | .container => [rootSlot]

/-- What both kinds of instances are observed to be. -/
theorem observe_spec {remote : Remote} {identity : Identity} {status : Status} {observed : Observed}
    (h : remote.observe identity status = .ok observed) :
    observed.identity = identity ∧ observed.status = status ∧
      (∀ slot < maxNics, identity.kind.Readable (remote.get? (nicSlot slot))) ∧
      ∃ d : Devices, observed.config = remote.configWith identity.kind status d ∧
        d.nics.value = (remote.networkSlots identity.kind).map (·.1) ∧
        (identity.kind = .container →
          (d.cloudInit.map (·.ipConfigs)).getD [] = (remote.networkSlots identity.kind).map (·.2)) := by
  cases hk : identity.kind with
  | vm =>
    obtain ⟨drives, firmware, -, -, hread, rfl⟩ := (observe_vm_eq_ok_iff hk).1 h
    exact ⟨rfl, rfl, hread, _, rfl, rfl, fun hc => by cases hc⟩
  | container =>
    obtain ⟨root, -, hread, rfl⟩ := (observe_container_eq_ok_iff hk).1 h
    exact ⟨rfl, rfl, hread, _, rfl, rfl, fun _ => rfl⟩

theorem length_nics_le {remote : Remote} {identity : Identity} {status : Status} {observed : Observed}
    (h : remote.observe identity status = .ok observed) : observed.config.nics.value.length ≤ maxNics := by
  obtain ⟨-, -, -, d, hconfig, hnics, -⟩ := observe_spec h
  have hvalue : observed.config.nics.value = (remote.networkSlots identity.kind).map (·.1) := by
    rw [hconfig]; exact hnics
  rw [hvalue, List.length_map]
  exact remote.length_networkSlots_le identity.kind

/-- An instance can be observed when its drives and its network slots can be read. -/
theorem exists_observe_iff {remote : Remote} {identity : Identity} {status : Status} :
    (∃ observed, remote.observe identity status = .ok observed) ↔
      (∀ slot ∈ driveKeys identity.kind, ∀ text ∈ remote.text? slot, ∃ drive,
      Drive.ofText slot text = .ok drive) ∧
        ∀ slot < maxNics, identity.kind.Readable (remote.get? (nicSlot slot)) := by
  have hread {slots : List String} : (∃ drives, remote.drivesIn slots = .ok drives) ↔
      ∀ slot ∈ slots, ∀ text ∈ remote.text? slot, ∃ drive, Drive.ofText slot text = .ok drive := by
    simp only [drivesIn_eq_ok_iff, exists_and_left, exists_eq, and_true]
  cases hk : identity.kind with
  | vm =>
    simp only [observe_vm_eq_ok_iff hk, driveKeys, List.forall_mem_append, ← hread]
    constructor
    · rintro ⟨observed, drives, firmware, hdrives, hfirmware, hnics, -⟩
      exact ⟨⟨⟨drives, hdrives⟩, firmware, hfirmware⟩, hnics⟩
    · rintro ⟨⟨⟨drives, hdrives⟩, firmware, hfirmware⟩, hnics⟩
      exact ⟨_, drives, firmware, hdrives, hfirmware, hnics, rfl⟩
  | container =>
    simp only [observe_container_eq_ok_iff hk, driveKeys, ← hread]
    constructor
    · rintro ⟨observed, root, hroot, hnics, -⟩
      exact ⟨⟨root, hroot⟩, hnics⟩
    · rintro ⟨⟨root, hroot⟩, hnics⟩
      exact ⟨_, root, hroot, hnics, rfl⟩

/-- An instance can still be observed when its drives are as they were and its network slots can be read. -/
theorem exists_observe {remote next : Remote} {identity : Identity} {status : Status} {observed : Observed}
    (h : remote.observe identity status = .ok observed)
    (hdrives : ∀ slot ∈ driveKeys identity.kind, next.get? slot = remote.get? slot)
    (hnics : ∀ slot < maxNics, identity.kind.Readable (next.get? (nicSlot slot))) :
    ∃ after, next.observe identity status = .ok after := by
  refine exists_observe_iff.2 ⟨fun slot hslot text htext => ?_, hnics⟩
  rw [text?, hdrives slot hslot] at htext
  exact (exists_observe_iff.1 ⟨observed, h⟩).1 slot hslot text htext

/-! ## Observed disks -/

theorem mem_disksAmong {drives : List (String × Drive)} {slot : String} {disk : Disk} :
    (slot, disk) ∈ disksAmong drives ↔ ∃ drive, (slot, drive) ∈ drives ∧ drive.isCdrom = false ∧
      drive.disk = disk := by
  simp only [disksAmong, List.mem_map, List.mem_filter, Prod.mk.injEq, Prod.exists, Bool.not_eq_true']
  constructor
  · rintro ⟨s, drive, ⟨hmem, hfixed⟩, rfl, rfl⟩
    exact ⟨drive, hmem, hfixed, rfl⟩
  · rintro ⟨drive, hmem, hfixed, rfl⟩
    exact ⟨slot, drive, ⟨hmem, hfixed⟩, rfl, rfl⟩

theorem keys_disksAmong (drives : List (String × Drive)) :
    ((disksAmong drives).map (·.1)).Sublist (drives.map (·.1)) := by
  rw [disksAmong, List.map_map]
  exact List.filter_sublist.map _

theorem mem_map_disk {drives : List (String × Drive)} {slot : String} {disk : Disk} :
    (slot, disk) ∈ drives.map (fun (slot, drive) => (slot, drive.disk)) ↔
      ∃ drive, (slot, drive) ∈ drives ∧ drive.disk = disk := by
  simp only [List.mem_map, Prod.mk.injEq, Prod.exists]
  constructor
  · rintro ⟨s, drive, hmem, rfl, rfl⟩
    exact ⟨drive, hmem, rfl⟩
  · rintro ⟨drive, hmem, rfl⟩
    exact ⟨slot, drive, hmem, rfl, rfl⟩

/-- An observed disk is what is read from its slot, unless that is a drive for media. -/
theorem get?_disks_of_observe {remote : Remote} {identity : Identity} {status : Status} {observed : Observed}
    (h : remote.observe identity status = .ok observed) {slot : String} {disk : Disk} :
    observed.config.disks.get? slot = some disk ↔
      slot ∈ driveKeys identity.kind ∧ ∃ text drive, remote.text? slot = some text ∧
      Drive.ofText slot text = .ok drive ∧
        (slot ∈ driveSlots → drive.isCdrom = false) ∧ drive.disk = disk := by
  cases hk : identity.kind with
  | vm =>
    obtain ⟨drives, firmware, hdrives, hfirmware, -, rfl⟩ := (observe_vm_eq_ok_iff hk).1 h
    have hkeys : List.Sublist ((disksAmong drives ++ firmware.map fun (slot, drive) => (slot, drive.disk) :
        List (String × Disk)).map (·.1)) (driveKeys .vm) := by
      rw [List.map_append, List.map_map]
      exact ((keys_disksAmong drives).trans (keys_drivesIn hdrives)).append (keys_drivesIn hfirmware)
    have hnodup : (driveKeys .vm).Nodup := by decide +kernel
    have hapart : ∀ slot ∈ [firmwareSlot, keyStoreSlot], slot ∉ driveSlots := by decide +kernel
    refine (Dict.get?_ofList_eq_some_iff (hnodup.sublist hkeys)).trans ?_
    rw [List.mem_append, mem_disksAmong, mem_map_disk]
    simp only [mem_drivesIn_iff hdrives, mem_drivesIn_iff hfirmware, driveKeys, List.mem_append]
    constructor
    · rintro (⟨drive, ⟨hslot, text, htext, hread⟩, hfixed, rfl⟩ | ⟨drive, ⟨hslot, text, htext, hread⟩, rfl⟩)
      · exact ⟨.inl hslot, text, drive, htext, hread, fun _ => hfixed, rfl⟩
      · exact ⟨.inr hslot, text, drive, htext, hread, fun hd => absurd hd (hapart slot hslot), rfl⟩
    · rintro ⟨hslot | hslot, text, drive, htext, hread, hfixed, rfl⟩
      · exact .inl ⟨drive, ⟨hslot, text, htext, hread⟩, hfixed hslot, rfl⟩
      · exact .inr ⟨drive, ⟨hslot, text, htext, hread⟩, rfl⟩
  | container =>
    obtain ⟨root, hroot, -, rfl⟩ := (observe_container_eq_ok_iff hk).1 h
    have hkeys : List.Nodup ((root.map fun (slot, drive) => (slot, drive.disk) : List (String × Disk)).map
        (·.1)) := by
      rw [List.map_map]
      exact List.Nodup.sublist (keys_drivesIn hroot) (by decide)
    have hapart : rootSlot ∉ driveSlots := by decide +kernel
    refine (Dict.get?_ofList_eq_some_iff hkeys).trans ?_
    rw [mem_map_disk]
    simp only [mem_drivesIn_iff hroot, driveKeys]
    constructor
    · rintro ⟨drive, ⟨hslot, text, htext, hread⟩, rfl⟩
      refine ⟨hslot, text, drive, htext, hread, fun hd => ?_, rfl⟩
      exact absurd (List.mem_singleton.1 hslot ▸ hd) hapart
    · rintro ⟨hslot, text, drive, htext, hread, -, rfl⟩
      exact ⟨drive, ⟨hslot, text, htext, hread⟩, rfl⟩

end Remote

end Steward
