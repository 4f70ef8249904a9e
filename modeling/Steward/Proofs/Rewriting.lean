/-
What an update keeps of the text that it takes the place of. A drive or a network device that is not as
declared is written anew, not edited: what the readers make nothing of, such as the serial number of a drive
or the queues of a network device, is not written again (`drift_rewrites`). Kept are the format of a drive and
its volume, if that names its store, the hardware address where none is declared, and the addresses of a
container's guest where nothing is said of first boot.
-/
import Mathlib
import Steward.Proofs.CreateRequest
import Steward.Proofs.NetworkRules
import Steward.Proofs.RetunedDrive

namespace Steward

namespace PropertyString

/-- A property string without the pairs under other keys. -/
def only (p : PropertyString) (keys : List String) : PropertyString :=
  { p with pairs := p.pairs.filter fun pair => keys.contains pair.1 }

variable {p : PropertyString} {keys : List String}

theorem WellFormed.only (h : p.WellFormed) (keys : List String) : (p.only keys).WellFormed :=
  ⟨h.head, fun pair hpair => h.pairs pair (List.mem_of_mem_filter hpair)⟩

theorem get?_only {key : String} (h : key ∈ keys) : (p.only keys).get? key = p.get? key := by
  rw [get?, get?, only, List.find?_filter]
  congr 1
  refine List.find?_congr fun pair _ => ?_
  by_cases hk : pair.1 = key <;> simp [hk, h]

theorem ofText_toText_only (text : String) (keys : List String) :
    ofText ((ofText text).only keys).toText = (ofText text).only keys :=
  ofText_toText ((wellFormed_ofText text).only keys)

/-- A text that takes the place of another one in a slot. It is made of pairs under the keys that the slot is
read by, which is all that the reader makes use of in the old text. Pairs under other keys are lost, unless
what is written holds a comma and with it pairs of its own. -/
structure Rewrites {α : Type} (read : String → Except Fault α) (keys : List String) (old value : String)
    (written : PropertyString) : Prop where
  text : value = written.toText
  managed : written.pairs.map (·.1) ⊆ keys
  ignored : read ((ofText old).only keys).toText = read old
  dropped : written.WellFormed → ∀ pair ∈ (ofText old).pairs, pair.1 ∉ keys → pair ∉ (ofText value).pairs

theorem Rewrites.of_managed {α : Type} {read : String → Except Fault α} {old : String}
    {written : PropertyString} (hm : written.pairs.map (·.1) ⊆ keys)
    (hi : read ((ofText old).only keys).toText = read old) :
    Rewrites read keys old written.toText written where
  text := rfl
  managed := hm
  ignored := hi
  dropped hw pair _ hk hpair := by
    rw [ofText_toText hw] at hpair
    exact hk (hm (List.mem_map_of_mem hpair))

end PropertyString

open PropertyString
open Desired (keys_append keys_cons keys_flag keys_optional)

/-! ## Drives -/

namespace Drive

/-- The keys that a drive is read by. -/
def keys : List String := ["file", "media", "size", "format"] ++ Disk.optionKeys

theorem ofText_only {slot text : String} {drive : Drive} (h : ofText slot text = .ok drive) :
    ofText slot ((PropertyString.ofText text).only keys).toText = .ok drive := by
  have hget : ∀ key ∈ keys, ((PropertyString.ofText text).only keys).get? key =
      (PropertyString.ofText text).get? key := fun key hk => get?_only hk
  obtain ⟨volume, size, hvolume, hsize, rfl⟩ := ofText_eq_ok_iff.1 h
  have hoptions : options ((PropertyString.ofText text).only keys) = options (PropertyString.ofText text) := by
    simp only [options, speedLimits, limit?]
    simp (disch := decide) only [hget]
  have hsizes : sizeGib ((PropertyString.ofText text).only keys) = sizeGib (PropertyString.ofText text) := by
    rw [sizeGib, sizeGib, hget "size" (by decide)]
  refine ofText_eq_ok_iff.2 ⟨volume, size, ?_, ?_, ?_⟩
  · rw [ofText_toText_only, hget "file" (by decide)]
    exact hvolume
  · rw [ofText_toText_only, hsizes, hsize]
  · rw [ofText_toText_only, hget "media" (by decide), hget "format" (by decide), hoptions]

theorem keys_retuned (slot : String) (drive : Drive) (o : DiskOptions) :
    (drive.retuned slot o).pairs.map (·.1) ⊆ keys := by
  have hbackup (backup : Bool) :
      ((if backup then [] else [("backup", "0")] : List (String × String)).map (·.1)).Sublist ["backup"] := by
    cases backup with
    | true => exact List.nil_sublist _
    | false => exact List.Sublist.refl _
  have hoptions (o : DiskOptions) : ((Disk.optionPairs o).map (·.1)).Sublist Disk.optionKeys :=
    keys_append (keys_append (keys_append (keys_append (keys_append (keys_append (keys_append
      (keys_append (keys_append (keys_append (keys_optional _ _) (keys_optional _ _)) (keys_flag _ _))
      (keys_flag _ _)) (hbackup _)) (keys_optional _ _)) (keys_optional _ _)) (keys_optional _ _))
      (keys_optional _ _)) (keys_optional _ _)) (keys_optional _ _)
  exact List.Subset.trans (keys_append (keys_optional "format" drive.disk.format) (hoptions _)).subset (by decide)

end Drive

/-! ## Network devices -/

namespace Nic

/-- The keys that a virtual machine's network device is read by. -/
def keys : List String := ["model", "macaddr", "bridge", "tag", "rate", "mtu", "firewall"] ++ models

/-- The keys that a container's network device and the addresses of its guest are read by. -/
def containerKeys : List String :=
  ["name", "bridge", "type", "hwaddr", "tag", "rate", "mtu", "firewall", "ip", "gw", "ip6", "gw6"]

theorem update_of_not_mem (nic : Nic) {key : String} (value : String) (h : key ∉ keys) :
    nic.update key value = .ok nic := by
  simp only [keys, List.mem_append, List.mem_cons, List.not_mem_nil, or_false, not_or] at h
  obtain ⟨⟨h1, h2, h3, h4, h5, h6, h7⟩, hmodels⟩ := h
  rw [update, if_neg h1, if_neg h2, if_neg h3, if_neg h4, if_neg h5, if_neg h6, if_neg h7,
    if_neg (by simpa using hmodels)]

theorem updateAll_only (nic : Nic) (p : PropertyString) :
    updateAll nic (p.only keys).pairs = updateAll nic p.pairs := by
  obtain ⟨head, pairs⟩ := p
  dsimp only [only]
  induction pairs generalizing nic with
  | nil => rfl
  | cons pair pairs ih =>
    obtain ⟨key, value⟩ := pair
    by_cases hk : key ∈ keys
    · rw [List.filter_cons, if_pos (by simpa using hk), updateAll, updateAll]
      cases nic.update key value with
      | error fault => rfl
      | ok next => exact ih next
    · rw [List.filter_cons, if_neg (by simpa using hk), updateAll, update_of_not_mem nic value hk]
      exact ih nic

theorem ofText_only {text : String} {nic : Nic} (h : ofText text = .ok nic) :
    ofText ((PropertyString.ofText text).only keys).toText = .ok nic := by
  simp only [ofText, Except.bind_eq_ok_iff, ofText_toText_only, updateAll_only] at h ⊢
  obtain ⟨seen, hseen, h⟩ := h
  refine ⟨seen, hseen, ?_⟩
  split at h
  · cases h
  · rw [if_neg ‹_›]
    exact h

theorem ofContainerText_only {text : String} {seen : Nic × IpConfig} (h : ofContainerText text = .ok seen) :
    ofContainerText ((PropertyString.ofText text).only containerKeys).toText = .ok seen := by
  have hget : ∀ key ∈ containerKeys, ((PropertyString.ofText text).only containerKeys).get? key =
      (PropertyString.ofText text).get? key := fun key hk => get?_only hk
  simp only [ofContainerText, optionalValue, IpConfig.ofProperties, ofText_toText_only] at h ⊢
  simp (disch := decide) only [hget]
  split at h
  · cases h
  · rw [if_neg ‹_›]
    exact h

/-- What a virtual machine's device is written as. -/
def written (nic : Nic) : PropertyString :=
  ⟨none, ("model", nic.model) :: optional "bridge" nic.bridge ++ optional "macaddr" nic.mac ++ nic.commonPairs⟩

/-- What a container's device is written as, with the addresses of its guest. -/
def containerWritten (nic : Nic) (slot : Nat) (ip : IpConfig) : PropertyString :=
  ⟨none, ("name", "eth" ++ Text.decimal slot) :: optional "bridge" nic.bridge ++ optional "hwaddr" nic.mac ++
    ip.pairs ++ nic.commonPairs⟩

theorem keys_commonPairs (nic : Nic) :
    (nic.commonPairs.map (·.1)).Sublist ["tag", "rate", "mtu", "firewall"] :=
  keys_append (keys_append (keys_append (keys_optional _ _) (keys_optional _ _)) (keys_optional _ _))
    (keys_flag _ _)

theorem keys_written (nic : Nic) : nic.written.pairs.map (·.1) ⊆ keys :=
  List.Subset.trans (keys_append (keys_append (keys_cons "model" nic.model (keys_optional "bridge" nic.bridge))
    (keys_optional "macaddr" nic.mac)) (keys_commonPairs nic)).subset (by decide)

theorem keys_containerWritten (nic : Nic) (slot : Nat) (ip : IpConfig) :
    (nic.containerWritten slot ip).pairs.map (·.1) ⊆ containerKeys := by
  have haddresses : (ip.pairs.map (·.1)).Sublist ["ip", "gw", "ip6", "gw6"] :=
    keys_append (keys_append (keys_append (keys_optional _ _) (keys_optional _ _)) (keys_optional _ _))
      (keys_optional _ _)
  exact List.Subset.trans (keys_append (keys_append (keys_append
    (keys_cons "name" ("eth" ++ Text.decimal slot) (keys_optional "bridge" nic.bridge))
    (keys_optional "hwaddr" nic.mac)) haddresses) (keys_commonPairs nic)).subset (by decide)

end Nic

/-! ## Updates -/

namespace Plan

/-- An update of a drive that is there is written from its volume, its format and the declared options. -/
theorem rewrites_planDisks {id : UInt32} {desired observed : Dict Disk} {slot old : String} {drive : Drive}
    {i : Intent} (hread : Drive.ofText slot old = .ok drive) (ho : observed.get? slot = some drive.disk)
    (hi : i ∈ (planDisks id desired observed).updates) (hslot : i.op.param? = some slot)
    (hdrift : i.reason = .drift) :
    ∃ want value, desired.get? slot = some want ∧ i = .update (diskField slot) slot value .drift ∧
      Rewrites (Drive.ofText slot) Drive.keys old value (drive.retuned slot want.options) := by
  obtain ⟨found, want, hd, ⟨-, rfl⟩ | ⟨disk, hdisk, -, rfl⟩⟩ := mem_updates_planDisks_iff.1 hi
  · cases hdrift
  · obtain rfl : found = slot := Option.some.inj hslot
    obtain rfl : disk = drive.disk := Option.some.inj (hdisk.symm.trans ho)
    refine ⟨want, _, hd, rfl, ?_⟩
    rw [Drive.toText_retuned hread]
    exact .of_managed (Drive.keys_retuned found drive want.options) ((Drive.ofText_only hread).trans hread.symm)

/-- An update of a device that is there is written from the declared one, with the hardware address that is
there if none is declared. -/
theorem mem_nicIntents_drift {rules : SlotRules} {desired observed : Setting (List Nic)} {slot : Nat}
    {i : Intent} (hi : i ∈ nicIntents rules desired observed) (hslot : i.op.param? = some (nicSlot slot))
    (hdrift : i.reason = .drift) :
    ∃ want seen, desired.value[slot]? = some want ∧ observed.value[slot]? = some seen ∧
      i = .update (nicField slot) (nicSlot slot) (rules.text slot { want with mac := want.mac <|> seen.mac })
        .drift := by
  rw [nicIntents] at hi
  split at hi
  · cases hi
  rcases List.mem_append.1 hi with hi | hi
  · obtain ⟨⟨want, n⟩, hmem, hstep⟩ := List.mem_filterMap.1 hi
    obtain rfl : n = slot :=
      Text.append_decimal_inj.1 (Option.some.inj ((param?_of_slotIntent? hstep).symm.trans hslot))
    have hwant : desired.value[n]? = some want := List.mem_zipIdx_iff_getElem?.1 hmem
    dsimp only at hstep
    unfold slotIntent? at hstep
    split at hstep
    · cases hstep
      cases hdrift
    · cases hstep
    · cases hstep
      cases hdrift
    · rename_i seen _ hseen
      split at hstep
      · cases hstep
      · exact ⟨want, seen, hwant, (Option.filter_eq_some_iff.1 hseen).1, (Option.some.inj hstep).symm⟩
  · obtain ⟨⟨seen, n⟩, -, hstep⟩ := List.mem_filterMap.1 hi
    dsimp only [pruneIntent?] at hstep
    split at hstep
    · cases hstep
      cases hdrift
    · cases hstep

theorem rewrites_vmSlotRules {desired observed : Setting (List Nic)} {slot : Nat} {old : String} {seen : Nic}
    {i : Intent} (hread : Nic.ofText old = .ok seen) (ho : observed.value[slot]? = some seen)
    (hi : i ∈ nicIntents vmSlotRules desired observed) (hslot : i.op.param? = some (nicSlot slot))
    (hdrift : i.reason = .drift) :
    ∃ want value, desired.value[slot]? = some want ∧ i = .update (nicField slot) (nicSlot slot) value .drift ∧
      Rewrites Nic.ofText Nic.keys old value (Nic.written { want with mac := want.mac <|> seen.mac }) := by
  obtain ⟨want, found, hd, hfound, rfl⟩ := mem_nicIntents_drift hi hslot hdrift
  obtain rfl : found = seen := Option.some.inj (hfound.symm.trans ho)
  exact ⟨want, _, hd, rfl, .of_managed (Nic.keys_written _) ((Nic.ofText_only hread).trans hread.symm)⟩

theorem rewrites_containerSlotRules {addresses : Option (List IpConfig)} {found : List IpConfig}
    {desired observed : Setting (List Nic)} {slot : Nat} {old : String} {seen : Nic} {ip : IpConfig} {i : Intent}
    (hread : Nic.ofContainerText old = .ok (seen, ip)) (ho : observed.value[slot]? = some seen)
    (hf : found[slot]? = some ip) (hi : i ∈ nicIntents (containerSlotRules addresses found) desired observed)
    (hslot : i.op.param? = some (nicSlot slot)) (hdrift : i.reason = .drift) :
    ∃ want value, desired.value[slot]? = some want ∧ i = .update (nicField slot) (nicSlot slot) value .drift ∧
      Rewrites Nic.ofContainerText Nic.containerKeys old value
        (Nic.containerWritten { want with mac := want.mac <|> seen.mac } slot (addressesAt addresses slot ip)) := by
  obtain ⟨want, other, hd, hother, rfl⟩ := mem_nicIntents_drift hi hslot hdrift
  obtain rfl : other = seen := Option.some.inj (hother.symm.trans ho)
  have haddresses : ((addresses.getD found)[slot]?).getD .none = addressesAt addresses slot ip := by
    cases addresses with
    | none => rw [Option.getD_none, hf]; rfl
    | some declared => rfl
  refine ⟨want, _, hd, rfl, ?_⟩
  dsimp only [containerSlotRules]
  rw [haddresses]
  exact .of_managed (Nic.keys_containerWritten _ slot _) ((Nic.ofContainerText_only hread).trans hread.symm)

/-- Every update of a drive or a network device that makes up for a difference writes the slot anew. Nothing of
the old text is kept but what the readers make use of: of a drive the format, and the volume if that names its
store, of a network device the hardware address if none is declared, and of a container the addresses of its
guest if nothing is said of first boot. -/
theorem drift_rewrites :
    (∀ (id : UInt32) (desired observed : Dict Disk) (slot old : String) (drive : Drive) (i : Intent),
      Drive.ofText slot old = .ok drive → observed.get? slot = some drive.disk →
      i ∈ (planDisks id desired observed).updates → i.op.param? = some slot → i.reason = .drift →
      ∃ want value, desired.get? slot = some want ∧ i = .update (diskField slot) slot value .drift ∧
        Rewrites (Drive.ofText slot) Drive.keys old value (drive.retuned slot want.options)) ∧
    (∀ (desired observed : Setting (List Nic)) (slot : Nat) (old : String) (seen : Nic) (i : Intent),
      Nic.ofText old = .ok seen → observed.value[slot]? = some seen →
      i ∈ nicIntents vmSlotRules desired observed → i.op.param? = some (nicSlot slot) → i.reason = .drift →
      ∃ want value, desired.value[slot]? = some want ∧
        i = .update (nicField slot) (nicSlot slot) value .drift ∧
        Rewrites Nic.ofText Nic.keys old value (Nic.written { want with mac := want.mac <|> seen.mac })) ∧
    ∀ (addresses : Option (List IpConfig)) (found : List IpConfig) (desired observed : Setting (List Nic))
      (slot : Nat) (old : String) (seen : Nic) (ip : IpConfig) (i : Intent),
      Nic.ofContainerText old = .ok (seen, ip) → observed.value[slot]? = some seen → found[slot]? = some ip →
      i ∈ nicIntents (containerSlotRules addresses found) desired observed →
      i.op.param? = some (nicSlot slot) → i.reason = .drift →
      ∃ want value, desired.value[slot]? = some want ∧
        i = .update (nicField slot) (nicSlot slot) value .drift ∧
        Rewrites Nic.ofContainerText Nic.containerKeys old value
          (Nic.containerWritten { want with mac := want.mac <|> seen.mac } slot
            (addressesAt addresses slot ip)) := by
  refine ⟨?_, ?_, ?_⟩
  · intro id desired observed slot old drive i hread ho hi hslot hdrift
    exact rewrites_planDisks hread ho hi hslot hdrift
  · intro desired observed slot old seen i hread ho hi hslot hdrift
    exact rewrites_vmSlotRules hread ho hi hslot hdrift
  · intro addresses found desired observed slot old seen ip i hread ho hf hi hslot hdrift
    exact rewrites_containerSlotRules hread ho hf hi hslot hdrift

/-- A drive with a serial number, of which nothing is made. -/
def numberedText : String := "local-lvm:vm-100-disk-0,serial=A1,size=8G"

def numberedDrive : Drive where
  volume := "local-lvm:vm-100-disk-0"
  media := none
  disk := { Disk.plain "scsi0" .data "local-lvm" 8 none true with path := some "vm-100-disk-0" }

/-- The disk of that drive, declared with a thread of its own. -/
def numberedDisks : Dict Disk :=
  .ofList [("scsi0", { numberedDrive.disk with options := threadedDisk.options })]

def numberedDisksFound : Dict Disk := .ofList [("scsi0", numberedDrive.disk)]

/-- A network device of several queues. -/
def queuedText : String := "virtio=BC:24:11:2E:3F:01,bridge=vmbr0,queues=4"

/-- A container's network device whose link is down. -/
def unlinkedText : String := "name=eth0,bridge=vmbr0,hwaddr=BC:24:11:2E:3F:01,ip=dhcp,link_down=1"

/-- What is read of such a device. -/
def bridgedNic (model : String) : Nic :=
  { Nic.disabled with
    enabled := true, bridge := some "vmbr0", model := model, mac := some "BC:24:11:2E:3F:01" }

/-- The device declared on another bridge. -/
def rebridgedNics (model : String) : Setting (List Nic) :=
  .explicit [{ bridgedNic model with bridge := some "vmbr1", mac := none }]

theorem drift_rewrites_numberedText :
    (∃ want value, numberedDisks.get? "scsi0" = some want ∧
      Rewrites (Drive.ofText "scsi0") Drive.keys numberedText value
        (numberedDrive.retuned "scsi0" want.options)) ∧
    (∃ want value, (rebridgedNics "virtio").value[0]? = some want ∧
      Rewrites Nic.ofText Nic.keys queuedText value
        (Nic.written { want with mac := want.mac <|> (bridgedNic "virtio").mac })) ∧
    ∃ want value, (rebridgedNics "veth").value[0]? = some want ∧
      Rewrites Nic.ofContainerText Nic.containerKeys unlinkedText value
        (Nic.containerWritten { want with mac := want.mac <|> (bridgedNic "veth").mac } 0
          ⟨some "dhcp", none, none, none⟩) := by
  obtain ⟨hdrives, hnics, hcontainers⟩ := drift_rewrites
  refine ⟨?_, ?_, ?_⟩
  · obtain ⟨want, value, hd, -, hrewrites⟩ := hdrives 100 numberedDisks numberedDisksFound "scsi0" numberedText
      numberedDrive (.update (diskField "scsi0") "scsi0" "local-lvm:vm-100-disk-0,iothread=1" .drift)
      (by decide +kernel) rfl (by decide +kernel) rfl rfl
    exact ⟨want, value, hd, hrewrites⟩
  · obtain ⟨want, value, hd, -, hrewrites⟩ := hnics (rebridgedNics "virtio") (.explicit [bridgedNic "virtio"]) 0
      queuedText (bridgedNic "virtio")
      (.update (nicField 0) (nicSlot 0) "model=virtio,bridge=vmbr1,macaddr=BC:24:11:2E:3F:01" .drift)
      (by decide +kernel) rfl (by decide +kernel) rfl rfl
    exact ⟨want, value, hd, hrewrites⟩
  · obtain ⟨want, value, hd, -, hrewrites⟩ := hcontainers none [⟨some "dhcp", none, none, none⟩]
      (rebridgedNics "veth") (.explicit [bridgedNic "veth"]) 0 unlinkedText (bridgedNic "veth")
      ⟨some "dhcp", none, none, none⟩
      (.update (nicField 0) (nicSlot 0) "name=eth0,bridge=vmbr1,hwaddr=BC:24:11:2E:3F:01,ip=dhcp" .drift)
      (by decide +kernel) rfl rfl (by decide +kernel) rfl rfl
    exact ⟨want, value, hd, hrewrites⟩

/-- The serial number and the queues are lost. -/
theorem unmanaged_lost :
    (¬∀ (id : UInt32) (desired observed : Dict Disk) (slot old value : String) (drive : Drive),
      Drive.ofText slot old = .ok drive → observed.get? slot = some drive.disk →
      .update (diskField slot) slot value .drift ∈ (planDisks id desired observed).updates →
      ∀ pair ∈ (PropertyString.ofText old).pairs, pair.1 ∉ Drive.keys →
        pair ∈ (PropertyString.ofText value).pairs) ∧
    ¬∀ (desired observed : Setting (List Nic)) (slot : Nat) (old value : String) (seen : Nic),
      Nic.ofText old = .ok seen → observed.value[slot]? = some seen →
      .update (nicField slot) (nicSlot slot) value .drift ∈ nicIntents vmSlotRules desired observed →
      ∀ pair ∈ (PropertyString.ofText old).pairs, pair.1 ∉ Nic.keys →
        pair ∈ (PropertyString.ofText value).pairs := by
  constructor
  · intro h
    have hkept := h 100 numberedDisks numberedDisksFound "scsi0" numberedText
      "local-lvm:vm-100-disk-0,iothread=1" numberedDrive (by decide +kernel) rfl (by decide +kernel)
      ("serial", "A1") (by decide +kernel) (by decide)
    exact absurd hkept (by decide +kernel)
  · intro h
    have hkept := h (rebridgedNics "virtio") (.explicit [bridgedNic "virtio"]) 0 queuedText
      "model=virtio,bridge=vmbr1,macaddr=BC:24:11:2E:3F:01" (bridgedNic "virtio") (by decide +kernel) rfl
      (by decide +kernel) ("queues", "4") (by decide +kernel) (by decide)
    exact absurd hkept (by decide +kernel)

end Plan

end Steward
