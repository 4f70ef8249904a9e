/-
Which documents are accepted. The checks are made one after the other, some of them on what an earlier one
computed; together they ask for what `Document.Valid` says and for nothing else, whatever the policy is
(`desired_accepts_iff`).
-/
import Mathlib
import Steward.Desired
import Steward.Proofs.Dict
import Steward.Proofs.Except
import Steward.Proofs.Text

namespace Steward

/-! ## Disks in their slots -/

/-- Disks are put in slots if none of them is taken already. -/
theorem disksBySlot_eq_ok_iff {start disks : Dict Disk} {added : List Disk} :
    disksBySlot start added = .ok disks ↔
      (added.map (·.interface)).Nodup ∧ (∀ d ∈ added, d.interface ∉ start.keys) ∧
        disks = (added.map fun d => (d.interface, d)).foldl (fun m e => m.insert e.1 e.2) start := by
  induction added generalizing start with
  | nil => simp [disksBySlot, eq_comm]
  | cons d added ih =>
    rw [disksBySlot, Dict.contains_eq]
    split
    · rename_i htaken
      have hmem : d.interface ∈ start.keys := Dict.mem_keys_iff.2 htaken
      simp [hmem]
    · rename_i hfree
      have hnot : d.interface ∉ start.keys := fun h => hfree (Dict.mem_keys_iff.1 h)
      have hkeys (slot : String) :
          slot ∉ (start.insert d.interface d).keys ↔ slot ≠ d.interface ∧ slot ∉ start.keys := by
        rw [Dict.mem_keys_iff, Dict.mem_keys_iff, Dict.get?_insert]
        by_cases h : slot = d.interface
        · simp [h]
        · simp [h, Ne.symm h]
      rw [ih]
      simp only [hkeys, List.map_cons, List.nodup_cons, List.foldl_cons, List.forall_mem_cons, hnot,
        not_false_eq_true, true_and, List.mem_map, not_exists, not_and]
      constructor
      · rintro ⟨hn, hfree, rfl⟩
        exact ⟨⟨fun e he h => (hfree e he).1 h, hn⟩, fun e he => (hfree e he).2, rfl⟩
      · rintro ⟨⟨hd, hn⟩, hfree, rfl⟩
        exact ⟨hn, fun e he => ⟨hd e he, hfree e he⟩, rfl⟩

theorem disksBySlot_append (start : Dict Disk) (xs ys : List Disk) :
    disksBySlot start (xs ++ ys) = disksBySlot start xs >>= fun disks => disksBySlot disks ys := by
  induction xs generalizing start with
  | nil => rfl
  | cons d xs ih =>
    rw [List.cons_append, disksBySlot, disksBySlot]
    split
    · rfl
    · exact ih _

theorem discard_parseInterface_eq_ok_iff {name : String} {u : PUnit} :
    Functor.discard (parseInterface name) = .ok u ↔ (parseInterface? name).isSome = true := by
  rw [parseInterface]
  cases parseInterface? name <;> simp [Functor.discard, Functor.mapConst, Except.map]

/-- Firmware and key store are in slots of their own. -/
theorem parseInterface?_firmware :
    parseInterface? firmwareSlot = none ∧ parseInterface? keyStoreSlot = none := by decide +kernel

namespace Document

variable {policy : Policy} {doc : Document} {d : Desired}

/-- A document is accepted part by part. -/
theorem desired_eq_ok_iff :
    doc.desired policy = .ok d ↔
      doc.checkNode = .ok () ∧ doc.checkId = .ok () ∧ ∃ system disks nics cloudInit,
        doc.operatingSystem policy = .ok system ∧ doc.disksOf policy = .ok disks ∧
        doc.nicsOf policy = .ok nics ∧ doc.cloudInitOf policy disks = .ok cloudInit ∧
        d = ⟨doc.node, doc.id, doc.kind, doc.pool, doc.cloneSource policy, system,
          doc.configOf policy system disks nics cloudInit⟩ := by
  simp only [desired, Except.bind_eq_ok_iff, Except.ok.injEq]
  constructor
  · rintro ⟨_, hnode, _, hid, system, hsystem, disks, hdisks, nics, hnics, cloudInit, hcloud, rfl⟩
    exact ⟨hnode, hid, system, disks, nics, cloudInit, hsystem, hdisks, hnics, hcloud, rfl⟩
  · rintro ⟨hnode, hid, system, disks, nics, cloudInit, hsystem, hdisks, hnics, hcloud, rfl⟩
    exact ⟨_, hnode, _, hid, system, hsystem, disks, hdisks, nics, hnics, cloudInit, hcloud, rfl⟩

theorem collectDisks_eq_ok_iff {start disks : Dict Disk} {blocks : List DiskBlock} :
    collectDisks policy start blocks = .ok disks ↔
      (∀ b ∈ blocks, (parseInterface? b.interface).isSome = true) ∧
        disksBySlot start (blocks.map fun b => b.toDisk policy) = .ok disks := by
  induction blocks generalizing start with
  | nil => simp [collectDisks, disksBySlot]
  | cons b blocks ih =>
    have hcons : disksBySlot start ((b :: blocks).map fun b => b.toDisk policy) =
        disksBySlot start [b.toDisk policy] >>= fun next =>
          disksBySlot next (blocks.map fun b => b.toDisk policy) := disksBySlot_append start [_] _
    rw [hcons]
    simp only [collectDisks, Except.bind_eq_ok_iff, discard_parseInterface_eq_ok_iff, ih, List.forall_mem_cons]
    constructor
    · rintro ⟨-, hparse, next, hnext, hblocks, hrest⟩
      exact ⟨⟨hparse, hblocks⟩, next, hnext, hrest⟩
    · rintro ⟨⟨hparse, hblocks⟩, next, hnext, hrest⟩
      exact ⟨⟨⟩, hparse, next, hnext, hblocks, hrest⟩

theorem vmDisks_eq_ok_iff {disks : Dict Disk} :
    doc.vmDisks policy = .ok disks ↔ (∀ b ∈ doc.disks, (parseInterface? b.interface).isSome = true) ∧
      disksBySlot .empty ((doc.disks.map fun b => b.toDisk policy) ++ doc.firmwareDisks policy) = .ok disks := by
  simp only [vmDisks, disksBySlot_append, Except.bind_eq_ok_iff, collectDisks_eq_ok_iff]
  constructor
  · rintro ⟨blocks, ⟨hvalid, hblocks⟩, hrest⟩
    exact ⟨hvalid, blocks, hblocks, hrest⟩
  · rintro ⟨hvalid, blocks, hblocks, hrest⟩
    exact ⟨blocks, ⟨hvalid, hblocks⟩, hrest⟩

/-- A block of a disk that a container can have. -/
structure DiskBlock.IsRoot (b : DiskBlock) : Prop where
  interface : b.interface = rootSlot
  source : b.source = none
  format : b.format = none
  cache : b.cache = none
  discard : b.discard = none
  ssd : b.ssd = none
  iothread : b.iothread = none
  speed : b.speed = none

theorem DiskBlock.isRoot_iff {b : DiskBlock} : b.IsRoot ↔ b.interface = rootSlot ∧ b.vmOption? = none := by
  constructor
  · rintro ⟨hslot, h1, h2, h3, h4, h5, h6, h7⟩
    exact ⟨hslot, by simp [vmOption?, *]⟩
  · rintro ⟨hslot, h⟩
    unfold vmOption? at h
    split_ifs at h
    simp only [Option.not_isSome_iff_eq_none] at *
    exact ⟨hslot, ‹_›, ‹_›, ‹_›, ‹_›, ‹_›, ‹_›, ‹_›⟩

/-- The root that a block of a container declares. -/
def DiskBlock.toRoot (policy : Policy) (b : DiskBlock) : Disk :=
  Disk.plain rootSlot .data (b.datastore.getD policy.diskDatastore) (b.sizeGib.getD policy.diskSizeGib) none
    (b.backup.getD policy.diskBackup)

theorem containerDisks_eq_ok_iff {disks : Dict Disk} :
    doc.containerDisks policy = .ok disks ↔ (doc.firmware = none ∧ doc.keyStore = none) ∧
      doc.disks.length ≤ 1 ∧ (∀ b ∈ doc.disks, b.IsRoot) ∧
      disks = .ofList ((doc.disks.map fun b => b.toRoot policy).map fun d => (d.interface, d)) := by
  rw [containerDisks]
  split
  · rename_i hextra
    refine ⟨fun h => (by cases h), fun ⟨⟨hf, hk⟩, _⟩ => ?_⟩
    simp [hf, hk] at hextra
  · rename_i hextra
    have hnone : doc.firmware = none ∧ doc.keyStore = none := by simpa using hextra
    simp only [hnone, and_self, true_and]
    match doc.disks with
    | [] =>
      have hempty : (.empty : Dict Disk) = .ofList [] := rfl
      simp [hempty, eq_comm]
    | [b] =>
      simp only [List.length_singleton, le_refl, true_and, List.forall_mem_singleton, DiskBlock.isRoot_iff]
      split
      · simp_all
      · rename_i hslot
        have hslot : b.interface = rootSlot := by simpa using hslot
        cases b.vmOption? with
        | some option => simp
        | none =>
          simp only [hslot, true_and, Except.ok.injEq]
          exact eq_comm
    | _ :: _ :: _ => simp

/-- The disks that a document declares. -/
def declaredDisks (policy : Policy) (doc : Document) : List Disk :=
  match doc.kind with
  | .vm => (doc.disks.map fun b => b.toDisk policy) ++ doc.firmwareDisks policy
  | .container => doc.disks.map fun b => b.toRoot policy

/-- Their slots. -/
def declaredSlots (doc : Document) : List String :=
  doc.disks.map (·.interface) ++ (doc.firmware.map fun _ => firmwareSlot).toList ++
    (doc.keyStore.map fun _ => keyStoreSlot).toList

/-- Where a drive can be, only the blocks of disks count. -/
theorem mem_declaredSlots_iff {slot : String} (h : (parseInterface? slot).isSome = true) :
    slot ∈ doc.declaredSlots ↔ slot ∈ doc.disks.map (·.interface) := by
  have hf : slot ≠ firmwareSlot := by
    rintro rfl
    rw [parseInterface?_firmware.1] at h
    cases h
  have hk : slot ≠ keyStoreSlot := by
    rintro rfl
    rw [parseInterface?_firmware.2] at h
    cases h
  cases hfirmware : doc.firmware <;> cases hstore : doc.keyStore <;>
    simp [declaredSlots, hfirmware, hstore, hf, hk]

/-- Slots of drives differ from those of firmware and key store. -/
theorem nodup_declaredSlots_iff (hv : ∀ b ∈ doc.disks, (parseInterface? b.interface).isSome = true) :
    doc.declaredSlots.Nodup ↔ (doc.disks.map (·.interface)).Nodup := by
  have hfree (slot : String) (hs : parseInterface? slot = none) : slot ∉ doc.disks.map (·.interface) := by
    intro hmem
    obtain ⟨b, hb, rfl⟩ := List.mem_map.1 hmem
    have hsome := hv b hb
    rw [hs] at hsome
    cases hsome
  have hf := hfree firmwareSlot parseInterface?_firmware.1
  have hk := hfree keyStoreSlot parseInterface?_firmware.2
  have hne : firmwareSlot ≠ keyStoreSlot := by decide
  rw [declaredSlots, List.append_assoc, List.nodup_append]
  cases doc.firmware <;> cases doc.keyStore <;> simp_all

theorem interfaces_declaredDisks (hr : doc.kind = .container →
      (doc.firmware = none ∧ doc.keyStore = none) ∧ ∀ b ∈ doc.disks, b.IsRoot) :
    (doc.declaredDisks policy).map (·.interface) = doc.declaredSlots := by
  rw [declaredDisks, declaredSlots]
  cases hk : doc.kind with
  | vm =>
    rw [List.map_append, List.map_map, firmwareDisks, List.append_assoc]
    cases doc.firmware <;> cases doc.keyStore <;> rfl
  | container =>
    obtain ⟨⟨hf, hs⟩, hroot⟩ := hr hk
    simp only [hf, hs, Option.map_none, Option.toList_none, List.append_nil, List.map_map]
    exact List.map_congr_left fun b hb => (hroot b hb).interface.symm

theorem path_declaredDisks {disk : Disk} (h : disk ∈ doc.declaredDisks policy) : disk.path = none := by
  rw [declaredDisks] at h
  cases hk : doc.kind with
  | vm =>
    rw [hk] at h
    simp only [firmwareDisks, List.mem_append, List.mem_map, Option.mem_toList, Option.map_eq_some_iff] at h
    obtain ⟨b, -, rfl⟩ | ⟨b, -, rfl⟩ | ⟨b, -, rfl⟩ := h <;> rfl
  | container =>
    rw [hk] at h
    obtain ⟨b, -, rfl⟩ := List.mem_map.1 h
    rfl

theorem disksOf_eq_ok_iff {disks : Dict Disk} : doc.disksOf policy = .ok disks ↔
    (doc.kind = .vm → (∀ b ∈ doc.disks, (parseInterface? b.interface).isSome = true) ∧
      (doc.disks.map (·.interface)).Nodup) ∧
    (doc.kind = .container → (doc.firmware = none ∧ doc.keyStore = none) ∧ doc.disks.length ≤ 1 ∧
      ∀ b ∈ doc.disks, b.IsRoot) ∧
    disks = .ofList ((doc.declaredDisks policy).map fun d => (d.interface, d)) := by
  rw [disksOf, declaredDisks]
  cases hk : doc.kind with
  | vm =>
    have hslots : (doc.declaredDisks policy).map (·.interface) = doc.declaredSlots :=
      interfaces_declaredDisks (by simp [hk])
    rw [declaredDisks, hk] at hslots
    simp only [vmDisks_eq_ok_iff, disksBySlot_eq_ok_iff, hslots]
    constructor
    · rintro ⟨hvalid, hnodup, -, rfl⟩
      exact ⟨fun _ => ⟨hvalid, (nodup_declaredSlots_iff hvalid).1 hnodup⟩, fun h => (by cases h), rfl⟩
    · rintro ⟨hvm, -, rfl⟩
      obtain ⟨hvalid, hnodup⟩ := hvm trivial
      exact ⟨hvalid, (nodup_declaredSlots_iff hvalid).2 hnodup, by simp [Dict.mem_keys_iff], rfl⟩
  | container =>
    rw [containerDisks_eq_ok_iff]
    constructor
    · rintro ⟨hnone, hlength, hroot, rfl⟩
      exact ⟨fun h => (by cases h), fun _ => ⟨hnone, hlength, hroot⟩, rfl⟩
    · rintro ⟨-, hcontainer, rfl⟩
      obtain ⟨hnone, hlength, hroot⟩ := hcontainer rfl
      exact ⟨hnone, hlength, hroot, rfl⟩

section Disks

variable {disks : Dict Disk} (h : doc.disksOf policy = .ok disks)

include h

theorem interfaces_disksOf : (doc.declaredDisks policy).map (·.interface) = doc.declaredSlots := by
  obtain ⟨-, hcontainer, -⟩ := disksOf_eq_ok_iff.1 h
  exact interfaces_declaredDisks fun hk => ⟨(hcontainer hk).1, (hcontainer hk).2.2⟩

theorem nodup_declaredSlots : doc.declaredSlots.Nodup := by
  obtain ⟨hvm, hcontainer, -⟩ := disksOf_eq_ok_iff.1 h
  cases hk : doc.kind with
  | vm => exact (nodup_declaredSlots_iff (hvm hk).1).2 (hvm hk).2
  | container =>
    obtain ⟨⟨hf, hs⟩, hsingle, -⟩ := hcontainer hk
    simp only [declaredSlots, hf, hs, Option.map_none, Option.toList_none, List.append_nil]
    match hd : doc.disks with
    | [] => exact List.nodup_nil
    | [b] => exact List.nodup_singleton _
    | _ :: _ :: _ => simp [hd] at hsingle

theorem mem_keys_disksOf {slot : String} : slot ∈ disks.keys ↔ slot ∈ doc.declaredSlots := by
  obtain ⟨-, -, rfl⟩ := disksOf_eq_ok_iff.1 h
  rw [Dict.mem_keys_ofList, List.map_map, ← interfaces_disksOf h]
  rfl

/-- What is in a slot is the disk that is declared for it. -/
theorem get?_disksOf {slot : String} {disk : Disk} :
    disks.get? slot = some disk ↔ disk ∈ doc.declaredDisks policy ∧ disk.interface = slot := by
  have hnodup := nodup_declaredSlots h
  rw [← interfaces_disksOf h] at hnodup
  obtain ⟨-, -, rfl⟩ := disksOf_eq_ok_iff.1 h
  rw [Dict.get?_ofList_eq_some_iff (by rw [List.map_map]; exact hnodup)]
  simp only [List.mem_map, Prod.mk.injEq]
  constructor
  · rintro ⟨found, hfound, rfl, rfl⟩
    exact ⟨hfound, rfl⟩
  · rintro ⟨hdisk, rfl⟩
    exact ⟨disk, hdisk, rfl, rfl⟩

end Disks

/-! ## The other parts -/

theorem checkNode_eq_ok_iff : doc.checkNode = .ok () ↔ ∃ c ∈ doc.node.toList, Text.isBlank c = false := by
  rw [checkNode, Except.ite_error_eq_ok_iff, List.isEmpty_iff, Text.trim_eq_nil_iff]
  simp

theorem checkId_eq_ok_iff : doc.checkId = .ok () ↔ ∀ id ∈ doc.id, 100 ≤ id ∧ id ≤ 999999999 := by
  rw [checkId]
  cases doc.id with
  | none => simp
  | some id =>
    dsimp only
    rw [Except.else_error_eq_ok_iff]
    simp [minId, maxId]

theorem operatingSystem_eq_ok_iff {system : Option OperatingSystem} :
    doc.operatingSystem policy = .ok system ↔
      (doc.clone.isSome = true ∨ ∃ b ∈ doc.system, doc.kind = .container → b.template.isSome = true) ∧
        system = doc.system.map fun b => ⟨b.osType.getD policy.osType, b.template⟩ := by
  rw [operatingSystem.eq_def]
  cases doc.clone with
  | some clone => simp [eq_comm (a := system)]
  | none =>
    cases doc.system with
    | none => simp
    | some b => simp [Except.ite_error_eq_ok_iff, Option.isSome_iff_ne_none, eq_comm (a := system)]

/-- Containers have one model, which may be written. -/
theorem modelFor_container_eq_ok_iff {b : NicBlock} {model : String} :
    b.modelFor policy .container = .ok model ↔
      model = containerModel ∧ ∀ written ∈ b.model, written = containerModel := by
  rw [NicBlock.modelFor]
  cases b.model with
  | none => simp [eq_comm]
  | some written =>
    simp only [Except.else_error_eq_ok_iff, Except.ok.injEq, Option.mem_def, Option.some.injEq, forall_eq']
    constructor
    · rintro ⟨rfl, rfl⟩
      exact ⟨rfl, rfl⟩
    · rintro ⟨rfl, rfl⟩
      exact ⟨rfl, rfl⟩

theorem nicsOf_eq_ok_iff {nics : Setting (List Nic)} :
    doc.nicsOf policy = .ok nics ↔ (doc.nics = none ∧ nics = ⟨[], .policy⟩) ∨
      ∃ blocks list, doc.nics = some blocks ∧ blocks.length ≤ maxNics ∧
        (blocks.mapM fun b => NicBlock.toNic policy b doc.kind) = .ok list ∧ nics = .explicit list := by
  rw [nicsOf]
  cases doc.nics with
  | none => simp [eq_comm (a := nics)]
  | some blocks => simp [Except.ite_error_eq_ok_iff, Except.map_eq_ok_iff, eq_comm (a := nics)]

theorem exists_nicsOf_iff (policy : Policy) :
    (∃ nics, doc.nicsOf policy = .ok nics) ↔ (∀ blocks ∈ doc.nics, blocks.length ≤ 32) ∧
      (doc.kind = .container → ∀ blocks ∈ doc.nics, ∀ b ∈ blocks, ∀ model ∈ b.model, model = "veth") := by
  have htoNic (b : NicBlock) : (∃ nic, b.toNic policy doc.kind = .ok nic) ↔
      (doc.kind = .container → ∀ model ∈ b.model, model = "veth") := by
    cases doc.kind with
    | vm => simp [NicBlock.toNic, NicBlock.modelFor, Except.map_eq_ok_iff]
    | container => simp [NicBlock.toNic, modelFor_container_eq_ok_iff, Except.map_eq_ok_iff, containerModel]
  have hblocks (blocks : List NicBlock) :
      (∃ list, (blocks.mapM fun b => NicBlock.toNic policy b doc.kind) = .ok list) ↔
        (doc.kind = .container → ∀ b ∈ blocks, ∀ model ∈ b.model, model = "veth") := by
    simp only [Except.exists_mapM_eq_ok_iff, htoNic]
    exact ⟨fun h hk b hb => h b hb hk, fun h b hb hk => h hk b hb⟩
  simp only [nicsOf_eq_ok_iff]
  cases doc.nics with
  | none => simp
  | some blocks =>
    simp only [Option.mem_def, Option.some.injEq, forall_eq'] at hblocks ⊢
    rw [← hblocks blocks]
    constructor
    · rintro ⟨nics, ⟨⟨⟩, -⟩ | ⟨_, list, rfl, hle, hlist, -⟩⟩
      exact ⟨hle, list, hlist⟩
    · rintro ⟨hle, list, hlist⟩
      exact ⟨_, .inr ⟨blocks, list, rfl, hle, hlist, rfl⟩⟩

theorem checkCloudInitSlot_eq_ok_iff {disks : Dict Disk} {slot : String} {u : Unit} :
    checkCloudInitSlot disks slot = .ok u ↔
      (∃ bus n, parseInterface? slot = some (bus, n) ∧ bus ≠ .virtio) ∧ slot ∉ disks.keys := by
  rw [Dict.mem_keys_iff, ← Dict.contains_eq]
  cases hp : parseInterface? slot with
  | none => simp [checkCloudInitSlot, parseInterface, hp, Except.bind_eq_ok_iff]
  | some found =>
    obtain ⟨bus, n⟩ := found
    simp [checkCloudInitSlot, parseInterface, hp, Except.bind_eq_ok_iff, Except.ite_error_eq_ok_iff]

/-- The first-boot settings that a block declares; a container keeps them without a drive. -/
def InitBlock.declared (policy : Policy) (kind : Kind) (b : InitBlock) : CloudInit :=
  match kind with
  | .vm => b.toCloudInit (b.datastore.getD policy.cloudInitDatastore) b.interface
  | .container => b.toCloudInit "" none

theorem cloudInitOf_eq_ok_iff {disks : Dict Disk} {init : Option CloudInit} :
    doc.cloudInitOf policy disks = .ok init ↔
      (doc.kind = .vm → ∀ b ∈ doc.init, ∀ slot ∈ b.interface,
        (∃ bus n, parseInterface? slot = some (bus, n) ∧ bus ≠ .virtio) ∧ slot ∉ disks.keys) ∧
      (doc.kind = .container → ∀ b ∈ doc.init,
        b.interface = none ∧ b.datastore = none ∧ ∀ account ∈ b.account, account.name = none) ∧
      init = doc.init.map fun b => b.declared policy doc.kind := by
  rw [cloudInitOf.eq_def]
  cases doc.init with
  | none => simp [eq_comm]
  | some b =>
    simp only [Option.mem_def, Option.some.injEq, forall_eq', Option.map_some]
    cases doc.kind with
    | vm =>
      have hplace {u : PUnit} : b.interface.forM (checkCloudInitSlot disks) = .ok u ↔ ∀ slot ∈ b.interface,
          (∃ bus n, parseInterface? slot = some (bus, n) ∧ bus ≠ .virtio) ∧ slot ∉ disks.keys := by
        cases b.interface with
        | none => simp [Option.forM, pure, Except.pure]
        | some slot => simp [Option.forM, checkCloudInitSlot_eq_ok_iff]
      simp only [vmCloudInit, Except.map_eq_ok_iff, Except.bind_eq_ok_iff, hplace]
      constructor
      · rintro ⟨_, ⟨-, hslot, ⟨⟩⟩, rfl⟩
        exact ⟨fun _ => hslot, fun h => (by cases h), rfl⟩
      · rintro ⟨hslot, -, rfl⟩
        exact ⟨_, ⟨⟨⟩, hslot trivial, rfl⟩, rfl⟩
    | container =>
      simp only [containerCloudInit, Except.map_eq_ok_iff, Except.ite_error_eq_ok_iff]
      simp [Option.bind_eq_none_iff, InitBlock.declared, and_assoc, eq_comm (a := init)]

/-! ## The whole document -/

/-- A virtual machine whose disks and first-boot drive are in slots of their own. -/
structure MachineValid (doc : Document) : Prop where
  slots : ∀ b ∈ doc.disks, (parseInterface? b.interface).isSome = true
  distinct : (doc.disks.map (·.interface)).Nodup
  init : ∀ b ∈ doc.init, ∀ slot ∈ b.interface,
    (∃ bus n, parseInterface? slot = some (bus, n) ∧ bus ≠ .virtio) ∧ slot ∉ doc.disks.map (·.interface)

/-- A container that asks for nothing that only virtual machines have. -/
structure ContainerValid (doc : Document) : Prop where
  firmware : doc.firmware = none
  keyStore : doc.keyStore = none
  single : doc.disks.length ≤ 1
  root : ∀ b ∈ doc.disks, b.IsRoot
  models : ∀ blocks ∈ doc.nics, ∀ b ∈ blocks, ∀ model ∈ b.model, model = "veth"
  init : ∀ b ∈ doc.init, b.interface = none ∧ b.datastore = none ∧ ∀ account ∈ b.account, account.name = none

/-- What is asked of a document. -/
structure Valid (doc : Document) : Prop where
  node : ∃ c ∈ doc.node.toList, Text.isBlank c = false
  id : ∀ id ∈ doc.id, 100 ≤ id ∧ id ≤ 999999999
  system : doc.clone.isSome = true ∨
    ∃ system ∈ doc.system, doc.kind = .container → system.template.isSome = true
  nics : ∀ blocks ∈ doc.nics, blocks.length ≤ 32
  machine : doc.kind = .vm → doc.MachineValid
  container : doc.kind = .container → doc.ContainerValid

theorem valid_of_desired (hd : doc.desired policy = .ok d) : doc.Valid := by
  obtain ⟨hnode, hid, system, disks, nics, init, hsystem, hdisks, hnics, hinit, -⟩ := desired_eq_ok_iff.1 hd
  obtain ⟨hvm, hcontainer, -⟩ := disksOf_eq_ok_iff.1 hdisks
  obtain ⟨hlength, hmodels⟩ := (exists_nicsOf_iff policy).1 ⟨nics, hnics⟩
  obtain ⟨hdrive, hinit, -⟩ := cloudInitOf_eq_ok_iff.1 hinit
  obtain ⟨hsystem, -⟩ := operatingSystem_eq_ok_iff.1 hsystem
  refine ⟨checkNode_eq_ok_iff.1 hnode, checkId_eq_ok_iff.1 hid, hsystem, hlength,
    fun hk => ⟨(hvm hk).1, (hvm hk).2, fun b hb slot hslot => ?_⟩, fun hk => ?_⟩
  · obtain ⟨hbus, hfree⟩ := hdrive hk b hb slot hslot
    have hparses : (parseInterface? slot).isSome = true := by
      obtain ⟨bus, n, hparse, -⟩ := hbus
      rw [hparse]
      rfl
    rw [mem_keys_disksOf hdisks, mem_declaredSlots_iff hparses] at hfree
    exact ⟨hbus, hfree⟩
  · obtain ⟨⟨hf, hs⟩, hsingle, hroot⟩ := hcontainer hk
    exact ⟨hf, hs, hsingle, hroot, hmodels hk, hinit hk⟩

theorem Valid.exists_desired (hv : doc.Valid) (policy : Policy) : ∃ d, doc.desired policy = .ok d := by
  obtain ⟨disks, hdisks⟩ : ∃ disks, doc.disksOf policy = .ok disks := by
    refine ⟨_, disksOf_eq_ok_iff.2 ⟨fun hk => ?_, fun hk => ?_, rfl⟩⟩
    · exact ⟨(hv.machine hk).slots, (hv.machine hk).distinct⟩
    · have hc := hv.container hk
      exact ⟨⟨hc.firmware, hc.keyStore⟩, hc.single, hc.root⟩
  obtain ⟨nics, hnics⟩ := (exists_nicsOf_iff policy).2
    ⟨hv.nics, fun hk => (hv.container hk).models⟩
  obtain ⟨init, hinit⟩ : ∃ init, doc.cloudInitOf policy disks = .ok init := by
    refine ⟨_, cloudInitOf_eq_ok_iff.2 ⟨fun hk b hb slot hslot => ?_, fun hk => (hv.container hk).init, rfl⟩⟩
    obtain ⟨⟨bus, n, hparse, hbus⟩, hfree⟩ := (hv.machine hk).init b hb slot hslot
    refine ⟨⟨bus, n, hparse, hbus⟩, ?_⟩
    rwa [mem_keys_disksOf hdisks, mem_declaredSlots_iff (by rw [hparse]; rfl)]
  exact ⟨_, desired_eq_ok_iff.2 ⟨checkNode_eq_ok_iff.2 hv.node, checkId_eq_ok_iff.2 hv.id, _, disks, nics, init,
    operatingSystem_eq_ok_iff.2 ⟨hv.system, rfl⟩, hdisks, hnics, hinit, rfl⟩⟩

/-- A document is accepted exactly if it is valid, whatever the policy is. Then its disks are in the slots that
it declares, and none of them has a volume yet. -/
theorem desired_accepts_iff (policy : Policy) (doc : Document) :
    ((∃ d, doc.desired policy = .ok d) ↔ doc.Valid) ∧
      ∀ d, doc.desired policy = .ok d → d.config.disks.keys.Perm doc.declaredSlots ∧
        ∀ slot disk, d.config.disks.get? slot = some disk → disk.interface = slot ∧ disk.path = none := by
  refine ⟨⟨fun ⟨d, hd⟩ => valid_of_desired hd, fun hv => hv.exists_desired policy⟩, fun d hd => ?_⟩
  obtain ⟨-, -, system, disks, nics, init, -, hdisks, -, -, rfl⟩ := desired_eq_ok_iff.1 hd
  have hslots : disks.keys.Perm doc.declaredSlots :=
    (List.perm_ext_iff_of_nodup disks.nodup_keys (nodup_declaredSlots hdisks)).2 fun slot =>
      mem_keys_disksOf hdisks
  refine ⟨hslots, fun slot disk h => ?_⟩
  obtain ⟨hdisk, hslot⟩ := (get?_disksOf hdisks).1 h
  exact ⟨hslot, path_declaredDisks hdisk⟩

/-- A virtual machine of two disks with firmware of its own, and a drive for first boot. -/
def storageServer (slot : String) : Document where
  node := "pve1"
  system := some {}
  disks := [{ interface := "virtio1" }, { interface := "scsi0" }]
  firmware := some {}
  init := some { interface := some slot }

/-- The drive has to be in a slot of its own. -/
theorem desired_accepts_iff_storageServer : (storageServer "ide2").Valid ∧ ¬(storageServer "scsi0").Valid ∧
    ∃ d, (storageServer "ide2").desired {} = .ok d ∧
      d.config.disks.keys.Perm ["virtio1", "scsi0", "efidisk0"] := by
  obtain ⟨d, hd⟩ : ∃ d, (storageServer "ide2").desired {} = .ok d := ⟨_, rfl⟩
  have hrefused : (storageServer "scsi0").desired {} = .error (.repeatedInterface "scsi0") := rfl
  refine ⟨(desired_accepts_iff {} _).1.1 ⟨d, hd⟩, fun hv => ?_, d, hd, ((desired_accepts_iff {} _).2 d hd).1⟩
  obtain ⟨found, hfound⟩ := (desired_accepts_iff {} _).1.2 hv
  cases hrefused.symm.trans hfound

end Document

end Steward
