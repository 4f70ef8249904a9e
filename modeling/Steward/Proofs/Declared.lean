/-
What a declared instance is, whatever document it comes from: texts in the form in which they are read
back, no more network devices than there are slots, and only such settings as its kind of instance has.
-/
import Mathlib
import Steward.Proofs.Acceptance
import Steward.Proofs.Nic

namespace Steward

/-- The form that every declared configuration has. -/
structure Config.Declared (kind : Kind) (c : Config) : Prop where
  /-- Reading takes ends of lines away, so there are none. -/
  description : Text.withoutLineEnds c.description.value = c.description.value
  /-- A start order that says nothing is none. -/
  startup : ∀ s ∈ c.startup.value, s.isEmpty = false
  nics : c.nics.value.length ≤ maxNics
  models : kind = .container → ∀ nic ∈ c.nics.value, nic.model = containerModel

namespace Document

variable {policy : Policy} {doc : Document} {d : Desired}

/-- An operating system that is written is the declared one. -/
theorem isSome_of_operatingSystem {system : Option OperatingSystem}
    (h : doc.operatingSystem policy = .ok system) :
    doc.system.isSome = true → system.isSome = true := by
  obtain ⟨-, rfl⟩ := operatingSystem_eq_ok_iff.1 h
  simp

/-- Network devices are as many as there are blocks, which fit the slots; containers have one model. -/
theorem nicsOf_spec {nics : Setting (List Nic)} (h : doc.nicsOf policy = .ok nics) :
    nics.value.length ≤ maxNics ∧ (doc.nics.isSome = true → nics.origin = .explicit) ∧
      (doc.kind = .container → ∀ nic ∈ nics.value, nic.model = containerModel) := by
  obtain ⟨hnone, rfl⟩ | ⟨blocks, list, -, hle, hlist, rfl⟩ := nicsOf_eq_ok_iff.1 h
  · simp [hnone]
  · refine ⟨(Except.length_of_mapM hlist).trans_le hle, fun _ => rfl, fun hk nic hnic => ?_⟩
    obtain ⟨b, -, hb⟩ := Except.exists_of_mem_mapM hlist hnic
    obtain ⟨model, hmodel, rfl⟩ := Except.map_eq_ok_iff.1 hb
    exact (modelFor_container_eq_ok_iff.1 (hk ▸ hmodel)).1

theorem config_declared (h : doc.desired policy = .ok d) : d.config.Declared d.kind := by
  obtain ⟨-, -, system, disks, nics, cloudInit, -, -, hnics, -, rfl⟩ := desired_eq_ok_iff.1 h
  obtain ⟨hlength, -, hmodels⟩ := nicsOf_spec hnics
  refine ⟨?_, ?_, hlength, hmodels⟩
  · cases hd : doc.description with
    | none => simpa [configOf, Setting.declared, hd] using (by decide : Text.withoutLineEnds "" = "")
    | some text => simpa [configOf, Setting.declared, hd] using Text.withoutLineEnds_idem text
  · intro s hs
    cases hd : doc.startup with
    | none => simp [configOf, startupOf, Setting.declared, hd] at hs
    | some written =>
      cases he : written.isEmpty <;> simp_all [configOf, startupOf, Setting.declared, Option.filter_some]

/-! ## Disks -/

/-- Declared disks have no volume yet, only data disks are imported, and all are in slots that there are. -/
theorem disks_spec (h : doc.desired policy = .ok d) {slot : String} {disk : Disk}
    (hs : d.config.disks.get? slot = some disk) :
    disk.path = none ∧ (disk.source.isSome = true → disk.diskClass = .data) ∧
    (d.kind = .container → slot = rootSlot) ∧
      (d.kind = .vm → (parseInterface? slot).isSome = true ∨ slot = firmwareSlot ∨ slot = keyStoreSlot) := by
  obtain ⟨-, -, system, disks, nics, cloudInit, -, hdisks, -, -, rfl⟩ := desired_eq_ok_iff.1 h
  obtain ⟨hvm, -, -⟩ := disksOf_eq_ok_iff.1 hdisks
  obtain ⟨hdisk, rfl⟩ := (get?_disksOf hdisks).1 hs
  refine ⟨path_declaredDisks hdisk, ?_⟩
  rw [declaredDisks] at hdisk
  cases hk : doc.kind with
  | vm =>
    rw [hk] at hdisk
    simp only [firmwareDisks, List.mem_append, List.mem_map, Option.mem_toList, Option.map_eq_some_iff] at hdisk
    obtain ⟨b, hb, rfl⟩ | ⟨b, -, rfl⟩ | ⟨b, -, rfl⟩ := hdisk
    · exact ⟨fun _ => rfl, fun hc => (by cases hc), fun _ => .inl ((hvm hk).1 b hb)⟩
    · exact ⟨fun himported => (by cases himported), fun hc => (by cases hc), fun _ => .inr (.inl rfl)⟩
    · exact ⟨fun himported => (by cases himported), fun hc => (by cases hc), fun _ => .inr (.inr rfl)⟩
  | container =>
    rw [hk] at hdisk
    obtain ⟨b, -, rfl⟩ := List.mem_map.1 hdisk
    exact ⟨fun _ => rfl, fun _ => rfl, fun hc => (by cases hc)⟩

/-! ## First-boot settings -/

theorem cloudInit_of_desired (h : doc.desired policy = .ok d) :
    d.config.cloudInit = doc.init.map fun b => b.declared policy d.kind := by
  obtain ⟨-, -, system, disks, nics, cloudInit, -, -, -, hcloud, rfl⟩ := desired_eq_ok_iff.1 h
  exact (cloudInitOf_eq_ok_iff.1 hcloud).2.2

/-- The first-boot settings of a virtual machine are those of the block that is written. -/
theorem cloudInit_of_vm (h : doc.desired policy = .ok d) (hk : d.kind = .vm) :
    d.config.cloudInit =
      doc.init.map fun b => b.toCloudInit (b.datastore.getD policy.cloudInitDatastore) b.interface := by
  rw [cloudInit_of_desired h, hk]
  rfl

/-- A container declares no slot for a first-boot drive. -/
theorem interface_of_container (h : doc.desired policy = .ok d) (hk : d.kind = .container) {want : CloudInit}
    (hw : d.config.cloudInit = some want) : want.interface = none := by
  rw [cloudInit_of_desired h, hk] at hw
  obtain ⟨b, -, rfl⟩ := Option.map_eq_some_iff.1 hw
  rfl

/-- Keys count without blanks around them. -/
theorem trim_keys (h : doc.desired policy = .ok d) {want : CloudInit}
    (hw : d.config.cloudInit = some want) {account : Account}
    (ha : want.account = some account) : ∀ key ∈ account.keys, Text.trim key.toList = key.toList := by
  rw [cloudInit_of_desired h] at hw
  obtain ⟨b, -, rfl⟩ := Option.map_eq_some_iff.1 hw
  have haccount : (b.declared policy d.kind).account =
      b.account.map fun a => { a with keys := a.keys.map Text.trimmed } := by cases d.kind <;> rfl
  rw [haccount] at ha
  obtain ⟨written, -, rfl⟩ := Option.map_eq_some_iff.1 ha
  intro key hkey
  obtain ⟨text, -, rfl⟩ := List.mem_map.1 hkey
  rw [Text.trimmed, String.toList_ofList]
  exact Text.trim_trim _

end Document

end Steward
