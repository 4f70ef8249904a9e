/-
The settings of an instance as rules: each comparison reads its own parameter, and what it writes there
reads back as the declared value. The rules stand in the order of the comparisons that they are.
-/
import Mathlib
import Steward.Plan.Diff
import Steward.Proofs.Declared
import Steward.Proofs.ParamRule
import Steward.Proofs.Slots

namespace Steward

open PropertyString

/-! ## Comparisons that read one parameter -/

/-- The comparison of one setting, which is read from its own parameter. -/
def DiffContext.rule {α : Type} [DecidableEq α] (ctx : DiffContext) (field param : String) (restart : Bool)
    (want : Setting α) (read : Option Json → Setting α) (encode : α → Option String) : ParamRule where
  param := param
  step value := (ctx.compare field param restart want (read value) encode).intent?

theorem Comparison.intent?_eq_none_iff {c : Comparison} : c.intent? = none ↔ c.differs = false := by
  rw [intent?]
  cases c.differs <;> cases c.value <;> simp

theorem DiffContext.step_rule {α : Type} [DecidableEq α] {ctx : DiffContext} {field param : String}
    {restart : Bool}
    {want : Setting α} {read : Option Json → Setting α} {encode : α → Option String} {value : Option Json}
    {i : Intent} (hi : (ctx.rule field param restart want read encode).step value = some i) :
    i.op.param? = some param ∧ i.op.stored? = (encode want.value).map .string := by
  simp only [rule, DiffContext.compare, Comparison.intent?] at hi
  cases he : encode want.value <;> simp_all
  all_goals obtain ⟨-, rfl⟩ := hi; exact ⟨rfl, rfl⟩

/-- A comparison is satisfied with what reads back as the declared value. -/
theorem DiffContext.step_rule_eq_none {α : Type} [DecidableEq α] {ctx : DiffContext} {field param : String}
    {restart : Bool} {want : Setting α} {read : Option Json → Setting α} {encode : α → Option String}
    {value : Option Json} (h : (read value).value = want.value) :
    (ctx.rule field param restart want read encode).step value = none := by
  refine Comparison.intent?_eq_none_iff.2 ?_
  simp [compare, differs, Setting.differsFrom, h]

theorem DiffContext.names_rule {α : Type} [DecidableEq α] {ctx : DiffContext} {field param : String}
    {restart : Bool} {want : Setting α} {read : Option Json → Setting α} {encode : α → Option String} :
    (ctx.rule field param restart want read encode).Names := fun _ _ hi => (step_rule hi).1

theorem DiffContext.settles_rule {α : Type} [DecidableEq α] {ctx : DiffContext} {field param : String}
    {restart : Bool} {want : Setting α} {read : Option Json → Setting α} {encode : α → Option String}
    (h : (read ((encode want.value).map .string)).value = want.value) :
    (ctx.rule field param restart want read encode).Settles := by
  intro value i hi
  rw [(step_rule hi).2]
  exact step_rule_eq_none h

/-! ## Readers -/

namespace Remote

def readText (default : String) (value : Option Json) : Setting String :=
  .reported (value.bind textOf?) default

def readNumber (default : UInt32) (value : Option Json) : Setting UInt32 :=
  .reported (value.bind numberOf?) default

def readFlag (default : Bool) (value : Option Json) : Setting Bool := .reported (value.bind flagOf?) default

def readDescription (value : Option Json) : Setting String :=
  .reported ((value.bind textOf?).map Text.withoutLineEnds) ""

def readTags (value : Option Json) : Setting NameSet :=
  .reported ((value.bind textOf?).map Tags.ofText) .empty

def readStartup (value : Option Json) : Setting (Option Startup) :=
  .reported ((value.bind textOf?).map fun s => some (Startup.ofText s)) none

def readEmulation (value : Option Json) : Setting (String × List String) :=
  (Setting.reported (((value.bind textOf?).map Cpu.emulationOfText).map (·.1)) "kvm64").zip
    (.reported (((value.bind textOf?).map Cpu.emulationOfText).map (·.2)) [])

def readHotplug (value : Option Json) : Setting (Option UInt32) :=
  (Setting.reported ((value.bind numberOf?).map some) none).map fun n => n.filter (0 < ·)

def readSharedMemory (value : Option Json) : Setting UInt32 :=
  .reported ((value.bind textOf?).bind SharedMemory.ofText?) 0

def readBootOrder (value : Option Json) : Setting (List String) :=
  .reported ((value.bind textOf?).map BootOrder.ofText) []

def readAgent (value : Option Json) : Setting Agent :=
  .reported ((value.bind textOf?).map Agent.ofText) ⟨false, false, Agent.defaultChannel⟩

theorem readText_some (default s : String) : (readText default (some (.string s))).value = s := rfl

theorem readText_nonEmpty (s : String) : (readText "" ((nonEmpty? s).map .string)).value = s := by
  by_cases hs : s = "" <;> simp [nonEmpty?, hs, readText, Setting.reported, textOf?]

theorem readNumber_some (default n : UInt32) :
    (readNumber default (some (.string (Text.decimal n.toNat)))).value = n := by
  simp [readNumber, Setting.reported, numberOf?, Text.uint32?_decimal]

theorem readNumber_nonZero (n : UInt32) : (readNumber 0 ((nonZero? n).map .string)).value = n := by
  by_cases hn : n = 0
  · simp [nonZero?, hn, readNumber, Setting.reported]
  · simp only [nonZero?, hn, if_false, Option.map_some]
    exact readNumber_some 0 n

theorem readFlag_some (default b : Bool) : (readFlag default (some (.string (flagDigit b)))).value = b := by
  simp [readFlag, Setting.reported, flagOf?]

theorem readDescription_nonEmpty {s : String} (h : Text.withoutLineEnds s = s) :
    (readDescription ((nonEmpty? s).map .string)).value = s := by
  by_cases hs : s = "" <;> simp [nonEmpty?, hs, readDescription, Setting.reported, textOf?, h]

theorem readTags_tagsText {tags : NameSet} (h : ∀ s ∈ tags.keys, Tags.IsTag s) :
    (readTags ((tagsText? tags).map .string)).value = tags := by
  cases he : tags.isEmpty with
  | true =>
    have hempty : tags = .empty := by
      obtain ⟨entries, hascending⟩ := tags
      obtain rfl : entries = [] := List.isEmpty_iff.1 he
      rfl
    rw [hempty]
    rfl
  | false => simp [tagsText?, he, readTags, Setting.reported, textOf?, Tags.ofText_toText h]

theorem readStartup_startupText {s : Option Startup} (h : ∀ t ∈ s, t.isEmpty = false) :
    (readStartup ((startupText? s).map .string)).value = s := by
  cases s with
  | none => rfl
  | some t =>
    have ht : t.isEmpty = false := h t rfl
    simp [startupText?, Option.filter_some, ht, readStartup, Setting.reported, textOf?, Startup.ofText_toText]

theorem readEmulation_emulationText {emulation : String} {flags : List String} (he : IsBare emulation)
    (hf : ∀ s ∈ flags, IsItem s) :
    (readEmulation (some (.string (Cpu.emulationText emulation flags)))).value = (emulation, flags) := by
  simp [readEmulation, Setting.zip, Setting.reported, textOf?, Cpu.emulationOfText_emulationText he hf]

theorem readHotplug_filter (n : Option UInt32) :
    (readHotplug (((n.filter (0 < ·)).map fun n => Text.decimal n.toNat).map .string)).value =
      n.filter (0 < ·) := by
  cases hn : n.filter (0 < ·) with
  | none => rfl
  | some m =>
    have hpos : 0 < m := by simpa using (Option.filter_eq_some_iff.1 hn).2
    simp [readHotplug, Setting.map, Setting.reported, numberOf?, Text.uint32?_decimal, Option.filter_some,
      hpos]

theorem readSharedMemory_text (id n : UInt32) :
    (readSharedMemory ((sharedMemoryText? id n).map .string)).value = n := by
  by_cases hn : n = 0
  · simp [sharedMemoryText?, hn, readSharedMemory, Setting.reported]
  · simp [sharedMemoryText?, hn, readSharedMemory, Setting.reported, textOf?, SharedMemory.ofText?_toText]

theorem readBootOrder_bootOrderText {devices : List String} (h : ∀ s ∈ devices, IsItem s) :
    (readBootOrder ((bootOrderText? devices).map .string)).value = devices := by
  cases devices with
  | nil => rfl
  | cons device devices =>
    simp [bootOrderText?, readBootOrder, Setting.reported, textOf?, BootOrder.ofText_toText h]

theorem readAgent_toText {a : Agent} (h : IsValue a.channel) :
    (readAgent (some (.string a.toText))).value = a := by
  simp [readAgent, Setting.reported, textOf?, Agent.ofText_toText h]

end Remote

/-! ## The rules -/

/-- A configuration whose texts can be carried by the notations of its kind's parameters. -/
structure Config.Writable (kind : Kind) (c : Config) : Prop where
  tags : ∀ s ∈ c.tags.value.keys, Tags.IsTag s
  nics : ∀ nic ∈ c.nics.value, nic.enabled = true → nic.Writable
  emulation : kind = .vm → IsBare c.cpu.value.emulation.value
  flags : kind = .vm → ∀ s ∈ c.cpu.value.flags.value, IsItem s
  agent : kind = .vm → IsValue c.agent.value.channel
  bootOrder : kind = .vm → ∀ s ∈ c.bootOrder.value, IsItem s
  addresses : kind = .container → ∀ init ∈ c.cloudInit, ∀ ip ∈ init.ipConfigs, ip.Writable

instance (kind : Kind) (c : Config) : Decidable (c.Writable kind) :=
  decidable_of_iff
    ((∀ s ∈ c.tags.value.keys, Tags.IsTag s) ∧ (∀ nic ∈ c.nics.value, nic.enabled = true → nic.Writable) ∧
      (kind = .vm → IsBare c.cpu.value.emulation.value) ∧
      (kind = .vm → ∀ s ∈ c.cpu.value.flags.value, IsItem s) ∧
      (kind = .vm → IsValue c.agent.value.channel) ∧ (kind = .vm → ∀ s ∈ c.bootOrder.value, IsItem s) ∧
      (kind = .container → ∀ init ∈ c.cloudInit, ∀ ip ∈ init.ipConfigs, ip.Writable))
    ⟨fun ⟨h1, h2, h3, h4, h5, h6, h7⟩ => ⟨h1, h2, h3, h4, h5, h6, h7⟩,
      fun ⟨h1, h2, h3, h4, h5, h6, h7⟩ => ⟨h1, h2, h3, h4, h5, h6, h7⟩⟩

/-- A configuration all of whose texts inside such notations are words, and whose rates survive. -/
structure Config.InWords (c : Config) : Prop where
  tags : ∀ s ∈ c.tags.value.keys, IsWord s
  nics : ∀ nic ∈ c.nics.value, IsWord nic.model ∧ (∀ s ∈ nic.bridge, IsWord s) ∧ (∀ s ∈ nic.mac, IsWord s) ∧
    RateSurvives nic.rate
  emulation : IsWord c.cpu.value.emulation.value
  flags : ∀ s ∈ c.cpu.value.flags.value, IsWord s
  agent : IsWord c.agent.value.channel
  bootOrder : ∀ s ∈ c.bootOrder.value, IsWord s
  addresses : ∀ init ∈ c.cloudInit, ∀ ip ∈ init.ipConfigs,
    (∀ s ∈ ip.ipv4, IsWord s) ∧ (∀ s ∈ ip.gateway4, IsWord s) ∧ (∀ s ∈ ip.ipv6, IsWord s) ∧
      ∀ s ∈ ip.gateway6, IsWord s

instance (c : Config) : Decidable c.InWords :=
  decidable_of_iff
    ((∀ s ∈ c.tags.value.keys, IsWord s) ∧
      (∀ nic ∈ c.nics.value, IsWord nic.model ∧ (∀ s ∈ nic.bridge, IsWord s) ∧ (∀ s ∈ nic.mac, IsWord s) ∧
        RateSurvives nic.rate) ∧
      IsWord c.cpu.value.emulation.value ∧ (∀ s ∈ c.cpu.value.flags.value, IsWord s) ∧
      IsWord c.agent.value.channel ∧ (∀ s ∈ c.bootOrder.value, IsWord s) ∧
      ∀ init ∈ c.cloudInit, ∀ ip ∈ init.ipConfigs,
        (∀ s ∈ ip.ipv4, IsWord s) ∧ (∀ s ∈ ip.gateway4, IsWord s) ∧ (∀ s ∈ ip.ipv6, IsWord s) ∧
        ∀ s ∈ ip.gateway6, IsWord s)
    ⟨fun ⟨h1, h2, h3, h4, h5, h6, h7⟩ => ⟨h1, h2, h3, h4, h5, h6, h7⟩,
      fun ⟨h1, h2, h3, h4, h5, h6, h7⟩ => ⟨h1, h2, h3, h4, h5, h6, h7⟩⟩

theorem Config.InWords.writable {c : Config} (h : c.InWords) (kind : Kind) : c.Writable kind where
  tags s hs := (h.tags s hs).isTag
  nics nic hnic _ := by
    obtain ⟨hmodel, hbridge, hmac, hrate⟩ := h.nics nic hnic
    exact ⟨⟨hmodel.1, hmodel.isValue⟩, fun s hs => (hbridge s hs).isValue,
      fun s hs => (hmac s hs).isValue, hrate⟩
  emulation _ := h.emulation.isBare
  flags _ s hs := (h.flags s hs).isItem
  agent _ := h.agent.isValue
  bootOrder _ s hs := (h.bootOrder s hs).isItem
  addresses _ init hinit ip hip := by
    obtain ⟨h1, h2, h3, h4⟩ := h.addresses init hinit ip hip
    exact ⟨fun s hs => (h1 s hs).isValue, fun s hs => (h2 s hs).isValue, fun s hs => (h3 s hs).isValue,
      fun s hs => (h4 s hs).isValue⟩

namespace Plan

open Remote

variable (ctx : DiffContext) (want : Config)

def generalRules : List ParamRule :=
  [ctx.rule "name" ctx.kind.nameKey false want.name (readText "") nonEmpty?,
    ctx.rule "description" "description" false want.description readDescription nonEmpty?,
    ctx.rule "tags" "tags" false want.tags readTags tagsText?,
    ctx.rule "on_boot" "onboot" false want.onBoot (readFlag false) flagText?,
    ctx.rule "protection" "protection" false want.protection (readFlag false) flagText?,
    ctx.rule "startup" "startup" false want.startup readStartup startupText?]

/-- An instance becomes a template and never an instance again. -/
def templateRule : ParamRule where
  param := "template"
  step value :=
    if ctx.differs want.template (readFlag false value) && want.template.value then
      some (.update "template" "template" "1" .drift)
    else none

def cpuRules : List ParamRule :=
  let cpu := want.cpu.value
  let vm := ctx.kind == .vm
  if ctx.inherits want.cpu then []
  else
    [ctx.rule "cpu.cores" "cores" vm cpu.cores (readNumber 1) numberText?,
      ctx.rule "cpu.units" "cpuunits" false cpu.units (readNumber 1024) numberText?,
      ctx.rule "cpu.limit" "cpulimit" false cpu.limit (readNumber 0) nonZero?] ++
    if vm then
      [ctx.rule "cpu.sockets" "sockets" true cpu.sockets (readNumber 1) numberText?,
        ctx.rule "cpu.architecture" "arch" true cpu.architecture (readText "") nonEmpty?,
        ctx.rule "cpu.type" "cpu" true (emulation cpu) readEmulation fun (type, flags) =>
          some (Cpu.emulationText type flags),
        ctx.rule "cpu.hotplugged" "vcpus" true (hotplug cpu) readHotplug fun n => n.map fun n =>
        Text.decimal n.toNat, ctx.rule "cpu.numa" "numa" true cpu.numa (readFlag false) flagText?]
    else []

def memoryRules : List ParamRule :=
  let memory := want.memory.value
  let vm := ctx.kind == .vm
  if ctx.inherits want.memory then []
  else
    [ctx.rule "memory.dedicated" "memory" vm memory.dedicated (readNumber 512) numberText?,
      ctx.rule "memory.floating" ctx.kind.floatingKey false memory.floating (readNumber 0) numberText?] ++
    if vm then
      [ctx.rule "memory.shared" "ivshmem" true memory.shared readSharedMemory (sharedMemoryText? ctx.id)]
    else []

def bootOrderRules : List ParamRule :=
  if want.bootOrder.isPolicy && want.disks.isEmpty then []
  else [ctx.rule "boot_order" "boot" true want.bootOrder readBootOrder bootOrderText?]

def machineRules : List ParamRule :=
  [ctx.rule "bios" "bios" true want.bios (readText "seabios") some,
    ctx.rule "machine" "machine" true want.machine (readText "") nonEmpty?,
    ctx.rule "keyboard_layout" "keyboard" true want.keyboard (readText "") nonEmpty?,
    ctx.rule "os_type" "ostype" true want.osType (readText "other") some,
    ctx.rule "acpi" "acpi" true want.acpi (readFlag true) flagText?,
    ctx.rule "tablet_device" "tablet" true want.tablet (readFlag true) flagText?,
    ctx.rule "scsi_hardware" "scsihw" true want.scsiHardware (readText "lsi") some,
    ctx.rule "agent" "agent" true want.agent readAgent fun a => some a.toText] ++
  bootOrderRules ctx want

def hardwareRules : List ParamRule :=
  cpuRules ctx want ++ memoryRules ctx want ++ if ctx.kind = .vm then machineRules ctx want else []

/-- All settings, the network slots apart. -/
def settingRules : List ParamRule := generalRules ctx want ++ [templateRule ctx want] ++
    hardwareRules ctx want

variable {ctx want} {remote : Remote} {status : Status} {d : Devices}

theorem intents_general :
    (generalComparisons ctx want (remote.configWith ctx.kind status d)).filterMap Comparison.intent? =
      ParamRule.steps (generalRules ctx want) remote := rfl

theorem intents_template :
    templateIntents ctx want (remote.configWith ctx.kind status d) =
    ParamRule.steps [templateRule ctx want] remote := by
  have hread : (remote.configWith ctx.kind status d).template = readFlag false (remote.get? "template") := rfl
  rw [templateIntents, hread, ParamRule.steps, List.filterMap_cons, ParamRule.stepIn, templateRule]
  dsimp only
  split <;> rfl

theorem intents_cpu :
    (cpuComparisons ctx want (remote.configWith ctx.kind status d)).filterMap Comparison.intent? =
      ParamRule.steps (cpuRules ctx want) remote := by
  simp only [cpuComparisons, cpuRules]
  split
  · rfl
  · split <;> rfl

theorem intents_memory :
    (memoryComparisons ctx want (remote.configWith ctx.kind status d)).filterMap Comparison.intent? =
      ParamRule.steps (memoryRules ctx want) remote := by
  simp only [memoryComparisons, memoryRules]
  split
  · rfl
  · split <;> rfl

theorem intents_machine :
    (machineComparisons ctx want (remote.configWith ctx.kind status d)).filterMap Comparison.intent? =
      ParamRule.steps (machineRules ctx want) remote := by
  simp only [machineComparisons, machineRules, bootOrderComparisons, bootOrderRules]
  split <;> rfl

theorem intents_hardware :
    (hardwareComparisons ctx want (remote.configWith ctx.kind status d)).filterMap Comparison.intent? =
      ParamRule.steps (hardwareRules ctx want) remote := by
  rw [hardwareComparisons, hardwareRules, List.filterMap_append, List.filterMap_append,
    ParamRule.steps_append, ParamRule.steps_append, intents_cpu, intents_memory]
  split
  · rw [intents_machine]
  · rfl

/-! ## Each rule changes its own parameter, and is satisfied with what it writes -/

theorem names_template : (templateRule ctx want).Names := by
  intro value i hi
  simp only [templateRule] at hi
  split at hi
  · cases hi
    rfl
  · cases hi

theorem names_settings : ∀ r ∈ settingRules ctx want, r.Names := by
  have hnil : ∀ r ∈ ([] : List ParamRule), r.Names := by simp
  simp only [settingRules, hardwareRules, List.forall_mem_append]
  refine ⟨⟨?_, by simpa using names_template⟩, ⟨?_, ?_⟩, ?_⟩
  · simp only [generalRules, List.forall_mem_cons]
    exact ⟨ctx.names_rule, ctx.names_rule, ctx.names_rule, ctx.names_rule, ctx.names_rule, ctx.names_rule,
      hnil⟩
  · simp only [cpuRules]
    split
    · exact hnil
    · refine List.forall_mem_append.2 ⟨?_, ?_⟩
      · simp only [List.forall_mem_cons]
        exact ⟨ctx.names_rule, ctx.names_rule, ctx.names_rule, hnil⟩
      · split
        · simp only [List.forall_mem_cons]
          exact ⟨ctx.names_rule, ctx.names_rule, ctx.names_rule, ctx.names_rule, ctx.names_rule, hnil⟩
        · exact hnil
  · simp only [memoryRules]
    split
    · exact hnil
    · refine List.forall_mem_append.2 ⟨?_, ?_⟩
      · simp only [List.forall_mem_cons]
        exact ⟨ctx.names_rule, ctx.names_rule, hnil⟩
      · split
        · exact List.forall_mem_cons.2 ⟨ctx.names_rule, hnil⟩
        · exact hnil
  · split
    · refine List.forall_mem_append.2 ⟨?_, ?_⟩
      · simp only [List.forall_mem_cons]
        exact ⟨ctx.names_rule, ctx.names_rule, ctx.names_rule, ctx.names_rule, ctx.names_rule, ctx.names_rule,
          ctx.names_rule, ctx.names_rule, hnil⟩
      · rw [bootOrderRules]
        split
        · exact hnil
        · exact List.forall_mem_cons.2 ⟨ctx.names_rule, hnil⟩
    · exact hnil

theorem settles_general (hd : want.Declared ctx.kind) (hw : want.Writable ctx.kind) :
    ∀ r ∈ generalRules ctx want, r.Settles := by
  simp only [generalRules, List.forall_mem_cons]
  exact ⟨ctx.settles_rule (readText_nonEmpty _), ctx.settles_rule (readDescription_nonEmpty hd.description),
    ctx.settles_rule (readTags_tagsText hw.tags), ctx.settles_rule (readFlag_some _ _),
    ctx.settles_rule (readFlag_some _ _), ctx.settles_rule (readStartup_startupText hd.startup), by simp⟩

theorem settles_template : (templateRule ctx want).Settles := by
  intro value i hi
  simp only [templateRule] at hi ⊢
  split at hi
  · rename_i h
    cases hi
    have hwant : want.template.value = true := (Bool.and_eq_true_iff.1 h).2
    have hread : (readFlag false (some (.string "1"))).value = true := by decide
    simp [Operation.stored?, Intent.update, DiffContext.differs, Setting.differsFrom, hwant, hread]
  · cases hi

theorem settles_cpu (hw : want.Writable ctx.kind) : ∀ r ∈ cpuRules ctx want, r.Settles := by
  simp only [cpuRules]
  split
  · simp
  · refine List.forall_mem_append.2 ⟨?_, ?_⟩
    · simp only [List.forall_mem_cons]
      exact ⟨ctx.settles_rule (readNumber_some _ _), ctx.settles_rule (readNumber_some _ _),
        ctx.settles_rule (readNumber_nonZero _), by simp⟩
    · split
      · rename_i hvm
        have hvm : ctx.kind = .vm := by simpa using hvm
        simp only [List.forall_mem_cons]
        exact ⟨ctx.settles_rule (readNumber_some _ _), ctx.settles_rule (readText_nonEmpty _),
          ctx.settles_rule (readEmulation_emulationText (hw.emulation hvm) (hw.flags hvm)),
          ctx.settles_rule (readHotplug_filter _), ctx.settles_rule (readFlag_some _ _), by simp⟩
      · simp

theorem settles_memory : ∀ r ∈ memoryRules ctx want, r.Settles := by
  simp only [memoryRules]
  split
  · simp
  · refine List.forall_mem_append.2 ⟨?_, ?_⟩
    · simp only [List.forall_mem_cons]
      exact ⟨ctx.settles_rule (readNumber_some _ _), ctx.settles_rule (readNumber_some _ _), by simp⟩
    · split
      · simpa using ctx.settles_rule (readSharedMemory_text _ _)
      · simp

theorem settles_machine (hw : want.Writable ctx.kind) (hvm : ctx.kind = .vm) :
    ∀ r ∈ machineRules ctx want, r.Settles := by
  refine List.forall_mem_append.2 ⟨?_, ?_⟩
  · simp only [List.forall_mem_cons]
    exact ⟨ctx.settles_rule (readText_some _ _), ctx.settles_rule (readText_nonEmpty _),
      ctx.settles_rule (readText_nonEmpty _), ctx.settles_rule (readText_some _ _),
      ctx.settles_rule (readFlag_some _ _), ctx.settles_rule (readFlag_some _ _),
      ctx.settles_rule (readText_some _ _), ctx.settles_rule (readAgent_toText (hw.agent hvm)), by simp⟩
  · rw [bootOrderRules]
    split
    · simp
    · simpa using ctx.settles_rule (readBootOrder_bootOrderText (hw.bootOrder hvm))

theorem settles_settings (hd : want.Declared ctx.kind) (hw : want.Writable ctx.kind) :
    ∀ r ∈ settingRules ctx want, r.Settles := by
  simp only [settingRules, hardwareRules, List.forall_mem_append]
  refine ⟨⟨settles_general hd hw, by simpa using settles_template⟩, ⟨settles_cpu hw, settles_memory⟩, ?_⟩
  split
  · exact settles_machine hw ‹_›
  · simp

/-! ## The parameters of the rules -/

def cpuParams : Kind → List String
  | .vm => ["cores", "cpuunits", "cpulimit", "sockets", "arch", "cpu", "vcpus", "numa"]
  | .container => ["cores", "cpuunits", "cpulimit"]

def memoryParams : Kind → List String
  | .vm => ["memory", "balloon", "ivshmem"]
  | .container => ["memory", "swap"]

def machineParams : Kind → List String
  | .vm => ["bios", "machine", "keyboard", "ostype", "acpi", "tablet", "scsihw", "agent", "boot"]
  | .container => []

/-- The parameters of all settings. -/
def settingParams (kind : Kind) : List String :=
  [kind.nameKey, "description", "tags", "onboot", "protection", "startup"] ++ ["template"] ++
    (cpuParams kind ++ memoryParams kind ++ machineParams kind)

theorem params_settingRules (ctx : DiffContext) (want : Config) :
    ((settingRules ctx want).map ParamRule.param).Sublist (settingParams ctx.kind) := by
  obtain ⟨id, kind, copied⟩ := ctx
  have hcpu : ((cpuRules ⟨id, kind, copied⟩ want).map ParamRule.param).Sublist (cpuParams kind) := by
    rw [cpuRules]
    split
    · exact List.nil_sublist _
    · cases kind <;> exact List.Sublist.refl _
  have hmemory : ((memoryRules ⟨id, kind, copied⟩ want).map ParamRule.param).Sublist (memoryParams kind) := by
    rw [memoryRules]
    split
    · exact List.nil_sublist _
    · cases kind <;> exact List.Sublist.refl _
  have hmachine : ((if kind = .vm then machineRules ⟨id, kind, copied⟩ want else []).map
      ParamRule.param).Sublist (machineParams kind) := by
    cases kind
    · have hboot : ((bootOrderRules ⟨id, .vm, copied⟩ want).map ParamRule.param).Sublist ["boot"] := by
        rw [bootOrderRules]
        split
        · exact List.nil_sublist _
        · exact List.Sublist.refl _
      rw [if_pos rfl, machineRules, List.map_append]
      exact (List.Sublist.refl _).append hboot
    · exact List.Sublist.refl _
  rw [settingRules, hardwareRules, List.map_append, List.map_append, List.map_append, List.map_append]
  exact (List.Sublist.refl _).append ((hcpu.append hmemory).append hmachine)

end Plan

end Steward
