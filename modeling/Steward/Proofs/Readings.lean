/-
What an observation depends on: of each parameter only what is read from it, as a text, a number or a flag, and
whether it is there at all. So it makes no difference whether a whole number is reported as such or by its
digits (`observe_respelled`). As a flag only 0 and 1 read the same in both ways.
-/
import Mathlib
import Steward.Proofs.CreateRequest

namespace Steward

/-! ## Numbers and their digits -/

/-- Of all numbers in digits only 1 means yes. -/
theorem isTrueWord_decimal (n : Nat) : isTrueWord (Text.decimal n) = (n == 1) := by
  have hdigit {c : Char} (h : c ∈ (Text.decimal n).toList) : c.isDigit = true := Text.isDigit_of_mem_decimal h
  have htrim : Text.trim (Text.decimal n).toList = (Text.decimal n).toList := by
    have h := congrArg String.toList (Text.trimmed_decimal n)
    rwa [Text.trimmed, String.toList_ofList] at h
  have hlower : (Text.decimal n).toList.map Char.toLower = (Text.decimal n).toList := by
    rw [List.map_congr_left fun c hc => Text.toLower_of_isDigit (hdigit hc), List.map_id']
  have hone : (Text.decimal n).toList = "1".toList ↔ n = 1 :=
    String.toList_inj.trans (Text.decimal_inj (n := 1))
  have hword (word : String) (c : Char) (hc : c ∈ word.toList) (hn : c.isDigit = false) :
      (Text.decimal n).toList ≠ word.toList := by
    intro he
    have hd := hdigit (he ▸ hc)
    rw [hn] at hd
    cases hd
  have htrue := hword "true" 't' (by decide) rfl
  have hon := hword "on" 'o' (by decide) rfl
  have hyes := hword "yes" 'y' (by decide) rfl
  rw [isTrueWord, htrim, hlower, Bool.eq_iff_iff]
  simp only [Bool.or_eq_true, beq_iff_eq, hone, htrue, hon, hyes, or_false]

namespace Remote

/-! ## Values and their digits -/

/-- A whole number is the same text as its digits. -/
theorem textOf?_decimal (n : UInt64) :
    textOf? (.string (Text.decimal n.toNat)) = textOf? (.number (.natural n)) := rfl

/-- A whole number and its digits are the same number, or both too large for one. -/
theorem numberOf?_decimal (n : UInt64) :
    numberOf? (.string (Text.decimal n.toNat)) = numberOf? (.number (.natural n)) := by
  have hread : numberOf? (.string (Text.decimal n.toNat)) = Text.uint32? (Text.trimmed (Text.decimal n.toNat)) := rfl
  rw [hread, Text.trimmed_decimal, numberOf?, Text.uint32?, Text.unsignedBelow?, Text.unsigned?_decimal,
    Option.filter_some]
  by_cases h : n.toNat < UInt32.size
  · simp [h]
  · simp [h]

theorem flagOf?_decimal_iff (n : UInt64) :
    flagOf? (.string (Text.decimal n.toNat)) = flagOf? (.number (.natural n)) ↔ n = 0 ∨ n = 1 := by
  have hzero : n = 0 ↔ n.toNat = 0 := UInt64.toNat_inj (b := 0) |>.symm
  have hone : n = 1 ↔ n.toNat = 1 := UInt64.toNat_inj (b := 1) |>.symm
  rw [flagOf?, flagOf?, isTrueWord_decimal, Option.some_inj, Bool.eq_iff_iff, beq_iff_eq, bne_iff_ne, ne_eq, hzero,
    hone]
  omega

/-! ## Parameters that read alike -/

/-- The parameters that are read as flags. -/
def flagKeys : List String := ["template", "onboot", "acpi", "tablet", "protection", "numa"]

/-- Two configurations in which a parameter reads the same. -/
structure ReadAlike (a b : Remote) (key : String) : Prop where
  contains : a.contains key = b.contains key
  text : a.text? key = b.text? key
  number : a.number? key = b.number? key
  flag : key ∈ flagKeys → a.flag? key = b.flag? key

variable {a b : Remote}

theorem ReadAlike.of_get? {key : String} (h : a.get? key = b.get? key) : ReadAlike a b key where
  contains := by rw [Dict.contains_eq, Dict.contains_eq, h]
  text := by rw [text?, text?, h]
  number := by rw [number?, number?, h]
  flag := fun _ => by rw [flag?, flag?, h]

theorem slotCount_congr {name : Nat → String} {limit : Nat}
    (h : ∀ slot < limit, ReadAlike a b (name slot)) : a.slotCount name limit = b.slotCount name limit := by
  induction limit with
  | zero => rfl
  | succ limit ih =>
    rw [slotCount_succ, slotCount_succ, (h limit (by omega)).contains, ih fun slot hslot => h slot (by omega)]

theorem nicsFrom_congr {α : Type} (read : String → Except Fault α) (absent : α) {slots : List Nat}
    (h : ∀ slot ∈ slots, ReadAlike a b (nicSlot slot)) :
    a.nicsFrom read absent slots = b.nicsFrom read absent slots := by
  induction slots with
  | nil => rfl
  | cons slot slots ih =>
    rw [nicsFrom, nicsFrom, (h slot (by simp)).text, ih fun s hs => h s (List.mem_cons_of_mem _ hs)]

theorem allNics_congr {α : Type} (read : String → Except Fault α) (absent : α)
    (h : ∀ key ∈ Desired.nicKeys, ReadAlike a b key) : a.allNics read absent = b.allNics read absent := by
  have hslot {slot : Nat} (hlt : slot < maxNics) : ReadAlike a b (nicSlot slot) :=
    h _ (List.mem_map_of_mem (List.mem_range.2 hlt))
  rw [allNics, allNics, slotCount_congr fun slot => hslot]
  refine nicsFrom_congr read absent fun slot hmem => hslot ?_
  exact Nat.lt_of_lt_of_le (List.mem_range.1 hmem) (b.slotCount_le _ _)

/-- Drives are read from their own parameters. -/
theorem drivesIn_congr {slots : List String} (h : ∀ slot ∈ slots, ReadAlike a b slot) :
    a.drivesIn slots = b.drivesIn slots := by
  induction slots with
  | nil => rfl
  | cons slot slots ih =>
    rw [drivesIn, drivesIn, (h slot (by simp)).text, ih fun s hs => h s (List.mem_cons_of_mem _ hs)]

section Init

variable (h : ∀ key ∈ Desired.initKeys, ReadAlike a b key)

include h

theorem ipConfigs_congr : a.ipConfigs = b.ipConfigs := by
  have hslot {n : Nat} (hlt : n < maxIpConfigs) : ReadAlike a b (IpConfig.slot n) :=
    h _ (List.mem_append_right _ (List.mem_map_of_mem (List.mem_range.2 hlt)))
  rw [ipConfigs, ipConfigs, slotCount_congr fun n => hslot]
  refine List.map_congr_left fun n hn => ?_
  rw [(hslot (Nat.lt_of_lt_of_le (List.mem_range.1 hn) (b.slotCount_le _ _))).text]

theorem resolver_congr : a.resolver = b.resolver := by
  rw [resolver, resolver, (h "searchdomain" (by decide +kernel)).text, (h "nameserver" (by decide +kernel)).text]

theorem account_congr : a.account = b.account := by
  rw [account, account, (h "ciuser" (by decide +kernel)).text, (h "cipassword" (by decide +kernel)).text,
    (h "sshkeys" (by decide +kernel)).text]

theorem cloudInitAt_congr : a.cloudInitAt = b.cloudInitAt := by
  funext slot datastore
  rw [cloudInitAt, cloudInitAt, resolver_congr h, ipConfigs_congr h, account_congr h]

end Init

/-- The devices of both kinds of instances. -/
theorem devices_congr {identity : Identity} (hdrives : ∀ slot ∈ driveKeys identity.kind, ReadAlike a b slot)
    (hnics : ∀ key ∈ Desired.nicKeys, ReadAlike a b key) (hinit : ∀ key ∈ Desired.initKeys, ReadAlike a b key) :
    a.devices identity = b.devices identity := by
  rw [devices, devices]
  cases hk : identity.kind with
  | vm =>
    rw [hk] at hdrives
    have hdrive := drivesIn_congr fun slot hslot => hdrives slot (List.mem_append_left _ hslot)
    have hfirmware := drivesIn_congr fun slot hslot => hdrives slot (List.mem_append_right _ hslot)
    dsimp only
    rw [vmDevices, vmDevices, hdrive, hfirmware, allNics_congr _ _ hnics, cloudInitAt_congr hinit]
  | container =>
    rw [hk] at hdrives
    have hroot : a.drivesIn [rootSlot] = b.drivesIn [rootSlot] := drivesIn_congr hdrives
    dsimp only
    rw [containerDevices, containerDevices, hroot, allNics_congr _ _ hnics, resolver_congr hinit]

theorem blockOrigin_congr {keys : List String} (h : ∀ key ∈ keys, ReadAlike a b key) :
    a.blockOrigin keys = b.blockOrigin keys := by
  have hany : keys.any a.contains = keys.any b.contains := by
    rw [Bool.eq_iff_iff, List.any_eq_true, List.any_eq_true]
    exact exists_congr fun key => and_congr_right fun hkey => by rw [(h key hkey).contains]
  rw [blockOrigin, blockOrigin, hany]

/-- The parameters of memory. -/
def memoryKeys (kind : Kind) : List String := ["memory", kind.floatingKey, "ivshmem"]

/-- The parameters of the settings, of which both kinds of instances are looked through for all. -/
def settingKeys (kind : Kind) : List String :=
  [kind.nameKey, "description", "tags", "startup", "template", "onboot", "boot", "bios", "machine", "keyboard",
    "ostype", "acpi", "tablet", "protection", "scsihw", "agent"] ++ cpuKeys ++ memoryKeys kind

section Settings

variable {kind : Kind} (h : ∀ key ∈ settingKeys kind, ReadAlike a b key)

include h

theorem cpu_congr : a.cpu = b.cpu := by
  have hcpu : ∀ key ∈ cpuKeys, ReadAlike a b key := fun key hkey =>
    h key (List.mem_append_left _ (List.mem_append_right _ hkey))
  have hemulation : a.emulation? = b.emulation? := by rw [emulation?, emulation?, (hcpu "cpu" (by decide)).text]
  rw [cpu, cpu, blockOrigin_congr hcpu, hemulation, (hcpu "arch" (by decide)).text,
    (hcpu "cores" (by decide)).number, (hcpu "sockets" (by decide)).number, (hcpu "cpuunits" (by decide)).number,
    (hcpu "vcpus" (by decide)).number, (hcpu "cpulimit" (by decide)).number,
    (hcpu "numa" (by decide)).flag (by decide)]

theorem memory_congr : a.memory kind = b.memory kind := by
  have hmemory : ∀ key ∈ memoryKeys kind, ReadAlike a b key := fun key hkey =>
    h key (List.mem_append_right _ hkey)
  have horigin : a.blockOrigin ["memory", kind.floatingKey, "ivshmem"] =
      b.blockOrigin ["memory", kind.floatingKey, "ivshmem"] := blockOrigin_congr hmemory
  rw [memory, memory, horigin, (hmemory "memory" (by simp [memoryKeys])).number,
    (hmemory kind.floatingKey (by simp [memoryKeys])).number, (hmemory "ivshmem" (by simp [memoryKeys])).text]

theorem configWith_congr (status : Status) (d : Devices) :
    a.configWith kind status d = b.configWith kind status d := by
  have htext {key : String} (hkey : key ∈ settingKeys kind) : a.text? key = b.text? key := (h key hkey).text
  have hflag {key : String} (hkey : key ∈ flagKeys) (hread : key ∈ settingKeys kind) :
      a.flag? key = b.flag? key := (h key hread).flag hkey
  rw [configWith, configWith, cpu_congr h, memory_congr h]
  cases kind <;> simp (disch := decide) only [htext, hflag]

end Settings

/-! ## Observations -/

/-- The parameters that an instance is observed by. -/
def observedKeys (kind : Kind) : List String :=
  settingKeys kind ++ driveKeys kind ++ Desired.nicKeys ++ Desired.initKeys

/-- An observation depends on how its own parameters read, and on nothing else. -/
theorem observe_of_readAlike {identity : Identity} (status : Status)
    (h : ∀ key ∈ observedKeys identity.kind, ReadAlike a b key) :
    a.observe identity status = b.observe identity status := by
  simp only [observedKeys, List.forall_mem_append] at h
  obtain ⟨⟨⟨hsettings, hdrives⟩, hnics⟩, hinit⟩ := h
  have hconfig := fun d => configWith_congr hsettings status d
  simp only [observe, devices_congr hdrives hnics hinit, hconfig]

/-- A configuration with some of the whole numbers of another one reported by their digits. For a parameter that
is read as a flag these are only 0 and 1. -/
def Respelled (a b : Remote) : Prop :=
  ∀ key, a.get? key = b.get? key ∨ ∃ n : UInt64, a.get? key = some (.number (.natural n)) ∧
    b.get? key = some (.string (Text.decimal n.toNat)) ∧ (key ∈ flagKeys → n = 0 ∨ n = 1)

theorem Respelled.readAlike (h : Respelled a b) (key : String) : ReadAlike a b key := by
  rcases h key with hsame | ⟨n, ha, hb, hflag⟩
  · exact .of_get? hsame
  · exact
      { contains := by rw [Dict.contains_eq, Dict.contains_eq, ha, hb]; rfl
        text := by rw [text?, text?, ha, hb, Option.bind_some, Option.bind_some, textOf?_decimal]
        number := by rw [number?, number?, ha, hb, Option.bind_some, Option.bind_some, numberOf?_decimal]
        flag := fun hkey => by
          rw [flag?, flag?, ha, hb, Option.bind_some, Option.bind_some, (flagOf?_decimal_iff n).2 (hflag hkey)] }

/-- Whether numbers are reported as such or by their digits makes no difference to an observation: it succeeds
or fails alike, and with the same result. -/
theorem observe_respelled (h : Respelled a b) (identity : Identity) (status : Status) :
    a.observe identity status = b.observe identity status :=
  observe_of_readAlike status fun key _ => h.readAlike key

/-- A container with numbers as they are reported by newer versions. -/
def numberedContainer : Remote := .ofList
  [("hostname", .string "web"), ("cores", .number (.natural 4)), ("memory", .number (.natural 2048)),
    ("nameserver", .number (.natural 53)), ("onboot", .number (.natural 1)),
    ("rootfs", .string "local-lvm:vm-100-disk-0,size=8G")]

/-- The container with two of its numbers as older versions report them, one of them a flag. -/
def partlySpelledContainer : Remote :=
  (numberedContainer.insert "cores" (.string "4")).insert "onboot" (.string "1")

theorem observe_respelled_numberedContainer : Respelled numberedContainer partlySpelledContainer ∧
    partlySpelledContainer.get? "memory" = some (.number (.natural 2048)) ∧
    ∃ observed, numberedContainer.observe ⟨"pve1", 100, .container⟩ ⟨.running, none⟩ = .ok observed ∧
      partlySpelledContainer.observe ⟨"pve1", 100, .container⟩ ⟨.running, none⟩ = .ok observed ∧
      observed.config.cpu.value.cores = .explicit 4 ∧ observed.config.onBoot = .explicit true := by
  have hrespelled : Respelled numberedContainer partlySpelledContainer := by
    intro key
    rw [partlySpelledContainer, Dict.get?_insert, Dict.get?_insert]
    by_cases honboot : "onboot" = key
    · subst honboot
      exact .inr ⟨1, rfl, rfl, fun _ => .inr rfl⟩
    · by_cases hcores : "cores" = key
      · subst hcores
        exact .inr ⟨4, rfl, rfl, by decide⟩
      · exact .inl (by rw [if_neg honboot, if_neg hcores])
  have ho : numberedContainer.observe ⟨"pve1", 100, .container⟩ ⟨.running, none⟩ = .ok _ :=
    Except.eq_ok_get (by decide +kernel)
  exact ⟨hrespelled, rfl, _, ho, (observe_respelled hrespelled _ _).symm.trans ho, by decide +kernel,
    by decide +kernel⟩

end Remote

end Steward
