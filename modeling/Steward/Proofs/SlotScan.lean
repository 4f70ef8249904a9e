/-
What the scan of a virtual machine's slots finds. Every slot that holds something is taken, and what it holds
is a disk or a medium, never both; beside the slots only firmware and key store have disks. The first-boot
settings go with the first medium that is the generated drive of the instance, in the order of the scan.
-/
import Mathlib
import Steward.Proofs.DrivePlacement
import Steward.Proofs.RetunedDrive

namespace Steward

open PropertyString

/-! ## Slots in their order -/

/-- The slots of drives: the bus of each, counted in the order of the scan, and its number on that bus. -/
inductive DriveSlot : String → Nat → Nat → Prop
  | ide {n : Nat} : n ≤ 3 → DriveSlot ("ide" ++ Text.decimal n) 0 n
  | sata {n : Nat} : n ≤ 5 → DriveSlot ("sata" ++ Text.decimal n) 1 n
  | scsi {n : Nat} : n ≤ 30 → DriveSlot ("scsi" ++ Text.decimal n) 2 n
  | virtio {n : Nat} : n ≤ 15 → DriveSlot ("virtio" ++ Text.decimal n) 3 n

/-- A slot comes before another: its bus does, or its number on the same bus. -/
def Precedes (slot other : String) : Prop :=
  ∃ bus n bus' n', DriveSlot slot bus n ∧ DriveSlot other bus' n' ∧ (bus < bus' ∨ bus = bus' ∧ n < n')

namespace Bus

/-- How many buses are scanned before. -/
def rank : Bus → Nat
  | ide => 0
  | sata => 1
  | scsi => 2
  | virtio => 3

theorem driveSlot_slotName {bus : Bus} {n : Nat} (h : n ≤ bus.lastSlot) :
    DriveSlot (bus.slotName n) bus.rank n := by
  cases bus with
  | ide => exact .ide h
  | sata => exact .sata h
  | scsi => exact .scsi h
  | virtio => exact .virtio h

theorem mem_slots_iff {bus : Bus} {slot : String} :
    slot ∈ bus.slots ↔ ∃ n ≤ bus.lastSlot, slot = bus.slotName n := by
  simp only [slots, List.mem_map, List.mem_range, Nat.lt_succ_iff, eq_comm (a := slot)]

theorem pairwise_slots (bus : Bus) : bus.slots.Pairwise Precedes := by
  refine List.pairwise_map.2 (List.pairwise_lt_range.imp_of_mem fun {m n} hm hn hlt => ?_)
  have hm : m ≤ bus.lastSlot := Nat.lt_succ_iff.1 (List.mem_range.1 hm)
  have hn : n ≤ bus.lastSlot := Nat.lt_succ_iff.1 (List.mem_range.1 hn)
  exact ⟨_, m, _, n, driveSlot_slotName hm, driveSlot_slotName hn, .inr ⟨rfl, hlt⟩⟩

end Bus

theorem mem_driveSlots_iff_driveSlot {slot : String} :
    slot ∈ driveSlots ↔ ∃ bus n, DriveSlot slot bus n := by
  simp only [driveSlots, List.mem_flatMap, Bus.mem_slots_iff]
  constructor
  · rintro ⟨bus, -, n, hn, rfl⟩
    exact ⟨bus.rank, n, Bus.driveSlot_slotName hn⟩
  · rintro ⟨bus, n, hslot⟩
    cases hslot with
    | ide h => exact ⟨.ide, by decide, n, h, rfl⟩
    | sata h => exact ⟨.sata, by decide, n, h, rfl⟩
    | scsi h => exact ⟨.scsi, by decide, n, h, rfl⟩
    | virtio h => exact ⟨.virtio, by decide, n, h, rfl⟩

/-- The slots are scanned in their order. -/
theorem pairwise_driveSlots : driveSlots.Pairwise Precedes := by
  have hbuses : Bus.all.Pairwise fun a b => a.rank < b.rank := by decide
  refine List.pairwise_flatMap.2 ⟨fun bus _ => bus.pairwise_slots, hbuses.imp fun hlt slot hslot other hother => ?_⟩
  obtain ⟨m, hm, rfl⟩ := Bus.mem_slots_iff.1 hslot
  obtain ⟨n, hn, rfl⟩ := Bus.mem_slots_iff.1 hother
  exact ⟨_, m, _, n, Bus.driveSlot_slotName hm, Bus.driveSlot_slotName hn, .inl hlt⟩

/-- What is found first in ordered entries comes before everything else that could be found. -/
theorem eq_or_rel_of_find? {α : Type} {R : α → α → Prop} {p : α → Bool} {xs : List α} {a b : α}
    (ho : xs.Pairwise R) (ha : xs.find? p = some a) (hb : b ∈ xs) (hp : p b = true) : b = a ∨ R a b := by
  obtain ⟨-, before, after, rfl, hbefore⟩ := List.find?_eq_some_iff_append.1 ha
  rcases List.mem_append.1 hb with hb | hb
  · have hnot := hbefore b hb
    rw [hp] at hnot
    cases hnot
  · rcases List.mem_cons.1 hb with rfl | hb
    · exact .inl rfl
    · exact .inr ((List.pairwise_cons.1 (List.pairwise_append.1 ho).2.1).1 b hb)

/-! ## What a slot holds -/

/-- Values that a slot can hold: texts, numbers and truth values. -/
def Json.isScalar : Json → Bool
  | .bool _ | .number _ | .string _ => true
  | .null | .array _ | .object _ => false

theorem Drive.store_eq_takeWhile (volume : String) :
    (place volume).1 = String.ofList (volume.toList.takeWhile (· != ':')) := by
  rw [place, Text.cut, Text.takeWhile_ne]
  cases Text.cutAt ':' volume.toList with
  | none => exact String.ofList_toList.symm
  | some pair => rfl

namespace Remote

variable (remote : Remote)

/-- Whether a parameter has a value that a slot can hold. -/
def Holds (key : String) : Prop := ∃ value ∈ remote.get? key, value.isScalar = true

/-- The volume in a slot: the value of `file`, or else what stands first. -/
def volumeIn? (slot : String) : Option String :=
  (remote.text? slot).bind fun text => (ofText text).get? "file" <|> (ofText text).head

/-- What kind of media a slot is for, if it is for any. -/
def mediaIn? (slot : String) : Option String := (remote.text? slot).bind fun text => (ofText text).get? "media"

/-- A slot for a medium with the generated volume of the instance `id`. -/
structure InitDrive (id : UInt32) (slot volume : String) : Prop where
  media : remote.mediaIn? slot = some "cdrom"
  holds : remote.volumeIn? slot = some volume
  generated : ("vm-" ++ Text.decimal id.toNat ++ "-cloudinit").toList <:+: volume.toList

variable {remote}

theorem isSome_text?_iff {key : String} : (remote.text? key).isSome = true ↔ remote.Holds key := by
  rw [text?, Holds]
  cases remote.get? key with
  | none => simp
  | some value => cases value <;> simp [textOf?, Json.isScalar]

/-- What is read from a slot, by the notation of its text. -/
theorem isCdrom_iff {slot text : String} {drive : Drive} (ht : remote.text? slot = some text)
    (hd : Drive.ofText slot text = .ok drive) :
    drive.isCdrom = true ↔ remote.mediaIn? slot = some "cdrom" := by
  obtain ⟨volume, size, -, -, rfl⟩ := Drive.ofText_eq_ok_iff.1 hd
  rw [mediaIn?, ht, Option.bind_some, Drive.isCdrom, beq_iff_eq]

theorem volumeIn?_eq {slot text : String} {drive : Drive} (ht : remote.text? slot = some text)
    (hd : Drive.ofText slot text = .ok drive) : remote.volumeIn? slot = some drive.volume := by
  obtain ⟨volume, size, hvolume, -, rfl⟩ := Drive.ofText_eq_ok_iff.1 hd
  rw [volumeIn?, ht, Option.bind_some, hvolume]

theorem drive?_eq {slot text : String} {drive : Drive} (ht : remote.text? slot = some text)
    (hd : Drive.ofText slot text = .ok drive) : remote.drive? slot = some drive := by
  rw [drive?, ht, Option.bind_some, hd]
  rfl

/-- A generated drive, by what is written in its slot. -/
theorem generated_iff {id : UInt32} {slot : String}
    (hread : ∀ text ∈ remote.text? slot, ∃ drive, Drive.ofText slot text = .ok drive) :
    remote.generated id slot = true ↔ ∃ volume, remote.InitDrive id slot volume := by
  cases ht : remote.text? slot with
  | none =>
    refine ⟨fun h => ?_, fun ⟨volume, h⟩ => ?_⟩
    · simp [generated, drive?, ht] at h
    · have hmedia := h.media
      simp [mediaIn?, ht] at hmedia
  | some text =>
    obtain ⟨drive, hd⟩ := hread text ht
    have hcontains : CloudInit.isVolumeOf id drive.volume = true ↔
        ("vm-" ++ Text.decimal id.toNat ++ "-cloudinit").toList <:+: drive.volume.toList := Text.occursIn_iff
    rw [generated, drive?_eq ht hd, Option.any_some, Bool.and_eq_true, isCdrom_iff ht hd, hcontains]
    constructor
    · rintro ⟨hmedia, hgenerated⟩
      exact ⟨_, hmedia, volumeIn?_eq ht hd, hgenerated⟩
    · rintro ⟨volume, hmedia, hvolume, hgenerated⟩
      cases (volumeIn?_eq ht hd).symm.trans hvolume
      exact ⟨hmedia, hgenerated⟩

/-- The store of what is in a slot. -/
theorem storeAt_eq {slot volume : String}
    (hread : ∀ text ∈ remote.text? slot, ∃ drive, Drive.ofText slot text = .ok drive)
    (hv : remote.volumeIn? slot = some volume) :
    remote.storeAt slot = String.ofList (volume.toList.takeWhile (· != ':')) := by
  obtain ⟨text, ht, -⟩ := Option.bind_eq_some_iff.1 hv
  obtain ⟨drive, hd⟩ := hread text ht
  cases (volumeIn?_eq ht hd).symm.trans hv
  rw [storeAt, drive?_eq ht hd, ← Drive.store_eq_takeWhile]
  obtain ⟨volume, size, -, -, rfl⟩ := Drive.ofText_eq_ok_iff.1 hd
  rfl

/-! ## The scan -/

/-- What a scan of the slots of the machine `id` finds. -/
structure Scanned (remote : Remote) (id : UInt32) (observed : Observed) : Prop where
  occupied : ∀ slot, slot ∈ observed.occupied.keys ↔ (∃ bus n, DriveSlot slot bus n) ∧ remote.Holds slot
  disks : ∀ slot ∈ observed.occupied.keys,
    slot ∈ observed.config.disks.keys ↔ remote.mediaIn? slot ≠ some "cdrom"
  /-- There are no disks elsewhere but of firmware and key store. -/
  others : ∀ slot, slot ∉ observed.occupied.keys →
    (slot ∈ observed.config.disks.keys ↔ (slot = "efidisk0" ∨ slot = "tpmstate0") ∧ remote.Holds slot)
  disk : ∀ slot disk, observed.config.disks.get? slot = some disk → disk.interface = slot ∧
    disk.diskClass = if slot = "efidisk0" then .firmware else if slot = "tpmstate0" then .keyStore else .data
  init : observed.config.cloudInit.isSome = true ↔
    ∃ slot ∈ observed.occupied.keys, ∃ volume, remote.InitDrive id slot volume
  /-- Of several generated drives the first one counts. -/
  first : ∀ init ∈ observed.config.cloudInit, ∃ slot ∈ observed.occupied.keys, ∃ volume,
    remote.InitDrive id slot volume ∧ init.interface = some slot ∧
      init.datastore = String.ofList (volume.toList.takeWhile (· != ':')) ∧
      ∀ other ∈ observed.occupied.keys, (∃ volume, remote.InitDrive id other volume) →
        other = slot ∨ Precedes slot other

section Machine

variable {identity : Identity} {status : Status} {observed : Observed} (hi : identity.kind = .vm)
  (ho : remote.observe identity status = .ok observed)

include hi ho

theorem readable_of_observe {slot : String} (h : slot ∈ driveKeys .vm) :
    ∀ text ∈ remote.text? slot, ∃ drive, Drive.ofText slot text = .ok drive := by
  have hread := (exists_observe_iff.1 ⟨observed, ho⟩).1
  rw [hi] at hread
  exact hread slot h

/-- The slots that are taken. -/
theorem mem_occupied_iff {slot : String} :
    slot ∈ observed.occupied.keys ↔ slot ∈ driveSlots ∧ remote.Holds slot := by
  have hread (h : slot ∈ driveSlots) := readable_of_observe hi ho (List.mem_append_left _ h)
  obtain ⟨drives, firmware, hdrives, -, -, rfl⟩ := (observe_vm_eq_ok_iff hi).1 ho
  have hkeys : slot ∈ (NameSet.ofList (drives.map (·.1))).keys ↔ ∃ drive, (slot, drive) ∈ drives := by
    rw [NameSet.ofList, Dict.mem_keys_ofList, List.map_map, List.map_map]
    simp
  refine hkeys.trans ?_
  simp only [mem_drivesIn_iff hdrives, exists_and_left, ← isSome_text?_iff, Option.isSome_iff_exists]
  refine and_congr_right fun hslot => ⟨?_, ?_⟩
  · rintro ⟨drive, text, ht, -⟩
    exact ⟨text, ht⟩
  · rintro ⟨text, ht⟩
    obtain ⟨drive, hd⟩ := hread hslot text ht
    exact ⟨drive, text, ht, hd⟩

/-- The slots with disks. -/
theorem mem_disks_iff {slot : String} :
    slot ∈ observed.config.disks.keys ↔ slot ∈ driveKeys .vm ∧ remote.Holds slot ∧
      (slot ∈ driveSlots → remote.mediaIn? slot ≠ some "cdrom") := by
  rw [Dict.mem_keys_iff, Option.isSome_iff_exists]
  simp only [get?_disks_of_observe ho, hi, ← isSome_text?_iff, Option.isSome_iff_exists]
  constructor
  · rintro ⟨disk, hslot, text, drive, ht, hd, hfixed, -⟩
    refine ⟨hslot, ⟨text, ht⟩, fun h => ?_⟩
    rw [Ne, ← isCdrom_iff ht hd, hfixed h]
    exact Bool.false_ne_true
  · rintro ⟨hslot, ⟨text, ht⟩, hfixed⟩
    obtain ⟨drive, hd⟩ := readable_of_observe hi ho hslot text ht
    refine ⟨drive.disk, hslot, text, drive, ht, hd, fun h => ?_, rfl⟩
    rw [← Bool.not_eq_true, isCdrom_iff ht hd]
    exact hfixed h

omit hi in
/-- A disk is known by its slot. -/
theorem disk_of_observe {slot : String} {disk : Disk} (h : observed.config.disks.get? slot = some disk) :
    disk.interface = slot ∧ disk.diskClass = DiskClass.ofSlot slot := by
  obtain ⟨-, text, drive, -, hd, -, rfl⟩ := (get?_disks_of_observe ho).1 h
  obtain ⟨volume, size, -, -, rfl⟩ := Drive.ofText_eq_ok_iff.1 hd
  exact ⟨rfl, rfl⟩

/-- Where generated drives are looked for, they are told by what is written there. -/
theorem generated_iff_of_observe {slot : String} :
    (slot ∈ driveSlots ∧ remote.generated identity.id slot = true) ↔
      slot ∈ observed.occupied.keys ∧ ∃ volume, remote.InitDrive identity.id slot volume := by
  rw [mem_occupied_iff hi ho, and_assoc]
  refine and_congr_right fun hslot => ?_
  rw [generated_iff (readable_of_observe hi ho (List.mem_append_left _ hslot))]
  refine ⟨fun ⟨volume, h⟩ => ⟨?_, volume, h⟩, fun h => h.2⟩
  obtain ⟨text, ht, -⟩ := Option.bind_eq_some_iff.1 h.holds
  exact isSome_text?_iff.1 (by rw [ht]; rfl)

/-- The scan of a machine's slots accounts for all of them: each one that holds something is taken, by a disk
or by a medium; there are no other disks but of firmware and key store; and the first-boot settings are those
of the first generated drive. -/
theorem observe_scans : remote.Scanned identity.id observed := by
  have hdisks (slot : String) : slot ∈ observed.config.disks.keys ↔ _ := mem_disks_iff hi ho
  have hoccupied (slot : String) : slot ∈ observed.occupied.keys ↔ _ := mem_occupied_iff hi ho
  have hinit := cloudInit_of_observe ho hi
  refine
    { occupied := fun slot => by rw [hoccupied, mem_driveSlots_iff_driveSlot]
      disks := fun slot htaken => ?_
      others := fun slot hfree => ?_
      disk := fun slot disk h => disk_of_observe ho h
      init := ?_
      first := fun init h => ?_ }
  · obtain ⟨hslot, hholds⟩ := (hoccupied slot).1 htaken
    rw [hdisks]
    exact ⟨fun h => h.2.2 hslot, fun h => ⟨List.mem_append_left _ hslot, hholds, fun _ => h⟩⟩
  · have hnone : remote.Holds slot → slot ∉ driveSlots := fun hholds hslot =>
      hfree ((hoccupied slot).2 ⟨hslot, hholds⟩)
    rw [hdisks, driveKeys, List.mem_append]
    constructor
    · rintro ⟨hslot, hholds, -⟩
      exact ⟨by simpa [firmwareSlot, keyStoreSlot] using hslot.resolve_left (hnone hholds), hholds⟩
    · rintro ⟨hslot, hholds⟩
      exact ⟨.inr (by simpa [firmwareSlot, keyStoreSlot] using hslot), hholds, fun h => absurd h (hnone hholds)⟩
  · rw [hinit, Option.isSome_map, List.find?_isSome]
    simp only [generated_iff_of_observe hi ho]
  · rw [hinit, Option.mem_def, Option.map_eq_some_iff] at h
    obtain ⟨slot, hfound, rfl⟩ := h
    obtain ⟨htaken, volume, hdrive⟩ := (generated_iff_of_observe hi ho).1
      ⟨List.mem_of_find?_eq_some hfound, List.find?_some hfound⟩
    have hread := readable_of_observe hi ho (List.mem_append_left _ ((hoccupied slot).1 htaken).1)
    refine ⟨slot, htaken, volume, hdrive, rfl, storeAt_eq hread hdrive.holds, fun other hother hgen => ?_⟩
    obtain ⟨hslot, hgenerated⟩ := (generated_iff_of_observe hi ho).2 ⟨hother, hgen⟩
    exact eq_or_rel_of_find? pairwise_driveSlots hfound hslot hgenerated

end Machine

/-- A machine with a foreign medium, two generated drives of its own, disks on two buses, firmware, a number
where a drive should be, and a slot that says nothing. -/
def crowdedMachine : Remote := .ofList
  [("ide0", .string "nas:vm-200-cloudinit,media=cdrom"),
    ("ide1", .null),
    ("ide3", .string "file=nas:vm-100-cloudinit.qcow2,media=cdrom"),
    ("sata0", .string "local-lvm:vm-100-cloudinit,media=cdrom"),
    ("scsi10", .string "local-lvm:vm-100-disk-0,size=8G"),
    ("scsi2", .number (.natural 7)),
    ("efidisk0", .string "local-lvm:vm-100-disk-1,size=528K")]

theorem observe_scans_crowdedMachine : ∃ observed,
    crowdedMachine.observe ⟨"pve1", 100, .vm⟩ ⟨.stopped, none⟩ = .ok observed ∧
      crowdedMachine.Scanned 100 observed ∧
      observed.occupied.keys = ["ide0", "ide3", "sata0", "scsi10", "scsi2"] ∧
      observed.config.disks.keys = ["efidisk0", "scsi10", "scsi2"] ∧
      observed.config.cloudInit.map (fun init => (init.interface, init.datastore)) = some (some "ide3", "nas") := by
  have ho : crowdedMachine.observe ⟨"pve1", 100, .vm⟩ ⟨.stopped, none⟩ = .ok _ :=
    Except.eq_ok_get (by decide +kernel)
  exact ⟨_, ho, observe_scans rfl ho, by decide +kernel, by decide +kernel, by decide +kernel⟩

end Remote

end Steward
