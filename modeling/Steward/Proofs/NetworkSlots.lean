/-
The network slots of an instance one by one. A slot has one step at most and none where it holds what is
declared; what the declaration leaves open, the hardware address and the addresses of a container's guest, is
written again as it is found (`networkIntents_slot_by_slot`).
-/
import Mathlib
import Steward.Proofs.Completeness
import Steward.Proofs.Rewriting

namespace Steward

open PropertyString
open Desired (nicSlot_injective)

/-! ## Devices in slots -/

namespace Nic

/-- That a device is as declared. Of hardware addresses only a declared one counts, whatever the case of its
letters; rates are equal as numbers. -/
structure Matches (want seen : Nic) : Prop where
  mac : ∀ mac ∈ want.mac, ∃ found ∈ seen.mac, mac.toList.map Char.toLower = found.toList.map Char.toLower
  bridge : want.bridge = seen.bridge
  model : want.model = seen.model
  vlan : want.vlan = seen.vlan
  rate : sameRate want.rate seen.rate = true
  mtu : want.mtu = seen.mtu
  firewall : want.firewall = seen.firewall

theorem satisfiedBy_iff {want seen : Nic} (he : want.enabled = true) :
    want.satisfiedBy seen = true ↔ seen.enabled = true ∧ want.Matches seen := by
  have hmac : want.mac.all (fun mac => seen.mac.any (sameMac mac)) = true ↔ ∀ mac ∈ want.mac,
      ∃ found ∈ seen.mac, mac.toList.map Char.toLower = found.toList.map Char.toLower := by
    simp [Option.all_eq_true, Option.any_eq_true, sameMac]
  simp only [satisfiedBy, he, if_true, Bool.and_eq_true, beq_iff_eq, hmac]
  constructor
  · rintro ⟨⟨⟨⟨⟨⟨⟨hseen, hmac⟩, hbridge⟩, hmodel⟩, hvlan⟩, hrate⟩, hmtu⟩, hfirewall⟩
    exact ⟨hseen, hmac, hbridge, hmodel, hvlan, hrate, hmtu, hfirewall⟩
  · rintro ⟨hseen, hmac, hbridge, hmodel, hvlan, hrate, hmtu, hfirewall⟩
    exact ⟨⟨⟨⟨⟨⟨⟨hseen, hmac⟩, hbridge⟩, hmodel⟩, hvlan⟩, hrate⟩, hmtu⟩, hfirewall⟩

/-- A slot that holds nothing, beyond the list or with a device that is not enabled. -/
def Vacant (nics : List Nic) (slot : Nat) : Prop := ∀ nic ∈ nics[slot]?, nic.enabled = false

theorem vacant_iff {nics : List Nic} {slot : Nat} :
    Vacant nics slot ↔ (nics[slot]?).filter enabled = none := by
  simp [Vacant, Option.filter_eq_none_iff]

end Nic

namespace Kind

/-- The key that a kind of instance keeps hardware addresses under. -/
def macKey : Kind → String
  | .vm => "macaddr"
  | .container => "hwaddr"

/-- What a device is written as; only containers have the addresses of the guest there. -/
def writtenNic (kind : Kind) (slot : Nat) (nic : Nic) (ip : IpConfig) : PropertyString :=
  match kind with
  | .vm => nic.written
  | .container => nic.containerWritten slot ip

theorem get?_macKey_writtenNic (kind : Kind) (slot : Nat) (nic : Nic) (ip : IpConfig) :
    (kind.writtenNic slot nic ip).get? kind.macKey = nic.mac := by
  cases kind with
  | vm => simp [macKey, writtenNic, Nic.written, Nic.commonPairs, get?_eq, lookup?_append, lookup?_cons]
  | container =>
    simp [macKey, writtenNic, Nic.containerWritten, IpConfig.pairs, Nic.commonPairs, get?_eq, lookup?_append,
      lookup?_cons]

theorem addresses_writtenNic (slot : Nat) (nic : Nic) (ip : IpConfig) :
    IpConfig.ofProperties (writtenNic .container slot nic ip) = ip := by
  simp [writtenNic, IpConfig.ofProperties, Nic.containerWritten, IpConfig.pairs, Nic.commonPairs, get?_eq,
    lookup?_append, lookup?_cons]

end Kind

namespace Plan

variable {ctx : DiffContext} {desired observed : Config}

/-! ## What a slot leads to -/

theorem text_slotRules (slot : Nat) (nic : Nic) :
    (slotRules ctx desired observed).text slot nic = (ctx.kind.writtenNic slot nic
      (addressesAt (desired.cloudInit.map (·.ipConfigs)) slot (observed.addresses slot))).toText := by
  rw [slotRules]
  cases ctx.kind with
  | vm => rfl
  | container => cases h : desired.cloudInit <;> rfl

/-- What a slot can lead to. -/
theorem slotStep?_cases {rules : SlotRules} {slot : Nat} {want seen : Option Nic} {i : Intent}
    (h : slotStep? rules slot want seen = some i) :
    (∃ reason, i = .delete (nicSlot slot) reason ∧ (∀ nic ∈ want, nic.enabled = false) ∧ seen ≠ none) ∨
      ∃ nic field reason, want = some nic ∧ nic.enabled = true ∧ i = .update field (nicSlot slot)
        (rules.text slot { nic with mac := nic.mac <|> seen.bind Nic.mac }) reason := by
  cases want with
  | none =>
    obtain ⟨found, rfl, rfl⟩ := Option.map_eq_some_iff.1 h
    exact .inl ⟨.prune, rfl, by simp, by simp⟩
  | some nic =>
    cases he : nic.enabled with
    | true =>
      obtain ⟨field, reason, rfl⟩ := update_of_slotIntent? he h
      exact .inr ⟨nic, field, reason, rfl, he, rfl⟩
    | false =>
      cases seen with
      | none => simp [slotStep?, slotIntent?, he] at h
      | some found =>
        obtain rfl : .delete (nicSlot slot) .disabled = i := by simpa [slotStep?, slotIntent?, he] using h
        exact .inl ⟨.disabled, rfl, by simpa using he, by simp⟩

theorem slotStep?_eq_none_iff {rules : SlotRules} {slot : Nat} {want seen : Option Nic} :
    slotStep? rules slot want seen = none ↔ (∃ nic found, want = some nic ∧ nic.enabled = true ∧
      seen = some found ∧ rules.satisfied slot nic found = true) ∨
      (∀ nic ∈ want, nic.enabled = false) ∧ seen = none := by
  cases want with
  | none => simp [slotStep?]
  | some nic =>
    cases he : nic.enabled with
    | true =>
      constructor
      · intro h
        obtain ⟨found, rfl, hsatisfied⟩ := exists_satisfied_of_slotIntent? he h
        exact .inl ⟨nic, found, rfl, he, rfl, hsatisfied⟩
      · rintro (⟨nic, found, ⟨⟩, -, rfl, hsatisfied⟩ | ⟨hdisabled, -⟩)
        · exact slotIntent?_of_satisfied he hsatisfied
        · exact absurd (hdisabled nic rfl) (by simp [he])
    | false => cases seen <;> simp [slotStep?, slotIntent?, he]

theorem param?_of_slotStep? {rules : SlotRules} {slot : Nat} {want seen : Option Nic} {i : Intent}
    (h : slotStep? rules slot want seen = some i) : i.op.param? = some (nicSlot slot) := by
  obtain ⟨reason, rfl, -⟩ | ⟨nic, field, reason, -, -, rfl⟩ := slotStep?_cases h <;> rfl

theorem networkIntents_eq (ctx : DiffContext) (desired observed : Config) (limit : Nat)
    (hd : desired.nics.value.length ≤ limit) (ho : observed.nics.value.length ≤ limit) :
    networkIntents ctx desired observed = if desired.nics.isPolicy then [] else
      (List.range limit).filterMap fun slot => slotStep? (slotRules ctx desired observed) slot
        desired.nics.value[slot]? ((observed.nics.value[slot]?).filter Nic.enabled) := by
  rw [networkIntents, nicIntents, slotIntents_eq _ hd ho]

theorem nodup_networkIntents (ctx : DiffContext) (desired observed : Config) :
    ((networkIntents ctx desired observed).map (·.op.param?)).Nodup := by
  rw [networkIntents_eq ctx desired observed _ (le_max_left _ _) (le_max_right _ _)]
  split
  · exact List.nodup_nil
  · rw [List.map_filterMap]
    refine List.Nodup.filterMap (fun a b param ha hb => ?_) List.nodup_range
    obtain ⟨i, hi, rfl⟩ := Option.map_eq_some_iff.1 ha
    obtain ⟨j, hj, hparam⟩ := Option.map_eq_some_iff.1 hb
    rw [param?_of_slotStep? hi, param?_of_slotStep? hj] at hparam
    exact nicSlot_injective (Option.some.inj hparam.symm)

/-- A step of a slot follows from the devices that are declared and found there. -/
theorem mem_networkIntents_iff {slot : Nat} {i : Intent} :
    i ∈ networkIntents ctx desired observed ∧ i.op.param? = some (nicSlot slot) ↔
      desired.nics.isPolicy = false ∧ slotStep? (slotRules ctx desired observed) slot desired.nics.value[slot]?
        ((observed.nics.value[slot]?).filter Nic.enabled) = some i := by
  -- far enough to reach the slot, and the ends of both lists
  rw [networkIntents_eq ctx desired observed
    (max (slot + 1) (max desired.nics.value.length observed.nics.value.length)) (by omega) (by omega)]
  cases desired.nics.isPolicy with
  | true => simp
  | false =>
    simp only [Bool.false_eq_true, if_false, List.mem_filterMap, List.mem_range, true_and]
    constructor
    · rintro ⟨⟨n, -, hn⟩, hparam⟩
      obtain rfl := nicSlot_injective (Option.some.inj ((param?_of_slotStep? hn).symm.trans hparam))
      exact hn
    · intro h
      exact ⟨⟨slot, by omega, h⟩, param?_of_slotStep? h⟩

theorem exists_slot_of_mem {i : Intent} (h : i ∈ networkIntents ctx desired observed) :
    ∃ slot, i.op.param? = some (nicSlot slot) := by
  rw [networkIntents_eq ctx desired observed _ (le_max_left _ _) (le_max_right _ _)] at h
  split at h
  · cases h
  · obtain ⟨slot, -, hstep⟩ := List.mem_filterMap.1 h
    exact ⟨slot, param?_of_slotStep? hstep⟩

theorem satisfied_slotRules_iff {slot : Nat} {want seen : Nic} (he : want.enabled = true) :
    (slotRules ctx desired observed).satisfied slot want seen = true ↔
      (seen.enabled = true ∧ want.Matches seen) ∧ (ctx.kind = .container → desired.cloudInit.isSome = true →
        desired.addresses slot = observed.addresses slot) := by
  rw [← Nic.satisfiedBy_iff he, slotRules]
  cases ctx.kind with
  | vm => simp [vmSlotRules]
  | container => cases h : desired.cloudInit <;> simp [containerSlotRules, Config.addresses, h]

/-! ## Slots that are let alone, and slots that are emptied -/

/-- The slots in which nothing is done. -/
inductive Kept (ctx : DiffContext) (desired observed : Config) (slot : Nat) : Prop
  /-- No list is declared. -/
  | undeclared (h : desired.nics.isPolicy = true)
  | vacant (hd : Nic.Vacant desired.nics.value slot) (ho : Nic.Vacant observed.nics.value slot)
  /-- The declared device is there, and in a container its guest has the declared addresses. -/
  | satisfied (want seen : Nic) (hw : desired.nics.value[slot]? = some want) (he : want.enabled = true)
      (ho : observed.nics.value[slot]? = some seen) (hs : seen.enabled = true) (hm : want.Matches seen)
      (ha : ctx.kind = .container → desired.cloudInit.isSome = true →
        desired.addresses slot = observed.addresses slot)

theorem kept_iff {slot : Nat} :
    (∀ i ∈ networkIntents ctx desired observed, i.op.param? ≠ some (nicSlot slot)) ↔
      Kept ctx desired observed slot := by
  have hsteps : (∀ i ∈ networkIntents ctx desired observed, i.op.param? ≠ some (nicSlot slot)) ↔
      (desired.nics.isPolicy = false → slotStep? (slotRules ctx desired observed) slot
        desired.nics.value[slot]? ((observed.nics.value[slot]?).filter Nic.enabled) = none) := by
    rw [Option.eq_none_iff_forall_ne_some]
    constructor
    · intro h hp i hi
      have hmem := mem_networkIntents_iff.2 ⟨hp, hi⟩
      exact h i hmem.1 hmem.2
    · intro h i hi hparam
      have hstep := mem_networkIntents_iff.1 ⟨hi, hparam⟩
      exact h hstep.1 i hstep.2
  rw [hsteps, slotStep?_eq_none_iff]
  constructor
  · intro h
    cases hp : desired.nics.isPolicy with
    | true => exact .undeclared hp
    | false =>
      obtain ⟨want, seen, hw, he, ho, hsatisfied⟩ | ⟨hd, ho⟩ := h hp
      · obtain ⟨⟨hs, hm⟩, ha⟩ := (satisfied_slotRules_iff he).1 hsatisfied
        exact .satisfied want seen hw he (Option.filter_eq_some_iff.1 ho).1 hs hm ha
      · exact .vacant hd (Nic.vacant_iff.2 ho)
  · rintro (hp | ⟨hd, ho⟩ | ⟨want, seen, hw, he, ho, hs, hm, ha⟩) hdeclared
    · cases hp.symm.trans hdeclared
    · exact .inr ⟨hd, Nic.vacant_iff.1 ho⟩
    · exact .inl ⟨want, seen, hw, he, by simp [ho, hs], (satisfied_slotRules_iff he).2 ⟨⟨hs, hm⟩, ha⟩⟩

theorem removed_iff {slot : Nat} :
    (∃ reason, .delete (nicSlot slot) reason ∈ networkIntents ctx desired observed) ↔
      desired.nics.isPolicy = false ∧ Nic.Vacant desired.nics.value slot ∧
        ¬Nic.Vacant observed.nics.value slot := by
  constructor
  · rintro ⟨reason, hmem⟩
    obtain ⟨hp, hstep⟩ := mem_networkIntents_iff.1 ⟨hmem, rfl⟩
    obtain ⟨reason', -, hd, ho⟩ | ⟨nic, field, reason', -, -, h⟩ := slotStep?_cases hstep
    · exact ⟨hp, hd, fun hv => ho (Nic.vacant_iff.1 hv)⟩
    · cases h
  · rintro ⟨hp, hd, ho⟩
    cases hstep : slotStep? (slotRules ctx desired observed) slot desired.nics.value[slot]?
        ((observed.nics.value[slot]?).filter Nic.enabled) with
    | none =>
      obtain ⟨nic, found, hnic, he, -⟩ | ⟨-, hv⟩ := slotStep?_eq_none_iff.1 hstep
      · cases (hd nic hnic).symm.trans he
      · exact absurd (Nic.vacant_iff.2 hv) ho
    | some i =>
      obtain ⟨reason, rfl, -⟩ | ⟨nic, field, reason, hnic, he, -⟩ := slotStep?_cases hstep
      · exact ⟨reason, (mem_networkIntents_iff.2 ⟨hp, hstep⟩).1⟩
      · cases (hd nic hnic).symm.trans he

/-! ## What is written in a slot -/

/-- What is written in a slot for a declared device: the device itself, and what is found in the slot of what
the declaration leaves open. -/
structure WritesOver (ctx : DiffContext) (desired observed : Config) (slot : Nat) (want : Nic)
    (written : PropertyString) : Prop where
  device : ∃ mac ip, written = ctx.kind.writtenNic slot { want with mac := mac } ip
  declared : ∀ mac ∈ want.mac, written.get? ctx.kind.macKey = some mac
  found : want.mac = none → ∀ seen, observed.nics.value[slot]? = some seen → seen.enabled = true →
    written.get? ctx.kind.macKey = seen.mac
  fresh : want.mac = none → Nic.Vacant observed.nics.value slot → written.get? ctx.kind.macKey = none
  addresses : ctx.kind = .container → desired.cloudInit = none →
    IpConfig.ofProperties written = observed.addresses slot

theorem writesOver (ctx : DiffContext) (desired observed : Config) (slot : Nat) (want : Nic) :
    WritesOver ctx desired observed slot want (ctx.kind.writtenNic slot
      { want with mac := want.mac <|> ((observed.nics.value[slot]?).filter Nic.enabled).bind Nic.mac }
      (addressesAt (desired.cloudInit.map (·.ipConfigs)) slot (observed.addresses slot))) where
  device := ⟨_, _, rfl⟩
  declared mac hmac := by
    obtain hmac : want.mac = some mac := hmac
    simp [Kind.get?_macKey_writtenNic, hmac]
  found hopen seen ho hs := by
    simp [Kind.get?_macKey_writtenNic, hopen, ho, Option.filter_some, hs]
  fresh hopen ho := by simp [Kind.get?_macKey_writtenNic, hopen, Nic.vacant_iff.1 ho]
  addresses hk hinit := by
    rw [hk, hinit]
    exact Kind.addresses_writtenNic slot _ _

/-- How the network slots of an instance are brought to what is declared, slot by slot. -/
structure SlotBySlot (ctx : DiffContext) (desired observed : Config) (steps : List Intent) : Prop where
  slots : ∀ i ∈ steps, ∃ slot, i.op.param? = some (nicSlot slot)
  once : (steps.map (·.op.param?)).Nodup
  kept : ∀ slot, (∀ i ∈ steps, i.op.param? ≠ some (nicSlot slot)) ↔ Kept ctx desired observed slot
  removed : ∀ slot, (∃ reason, .delete (nicSlot slot) reason ∈ steps) ↔ desired.nics.isPolicy = false ∧
    Nic.Vacant desired.nics.value slot ∧ ¬Nic.Vacant observed.nics.value slot
  updated : ∀ slot field value reason, .update field (nicSlot slot) value reason ∈ steps →
    ∃ want written, desired.nics.value[slot]? = some want ∧ want.enabled = true ∧
      WritesOver ctx desired observed slot want written ∧ value = written.toText ∧
      (written.WellFormed → PropertyString.ofText value = written)

/-- Network slots are settled one by one, whatever is declared and found: a slot has one step at most, and none
if it is as declared. What the declaration leaves open stays as it is found. -/
theorem networkIntents_slot_by_slot (ctx : DiffContext) (desired observed : Config) :
    SlotBySlot ctx desired observed (networkIntents ctx desired observed) where
  slots _ hi := exists_slot_of_mem hi
  once := nodup_networkIntents ctx desired observed
  kept _ := kept_iff
  removed _ := removed_iff
  updated slot field value reason hmem := by
    obtain ⟨-, hstep⟩ := mem_networkIntents_iff.1 ⟨hmem, rfl⟩
    obtain ⟨_, h, -⟩ | ⟨want, field, reason, hwant, he, h⟩ := slotStep?_cases hstep
    · cases h
    · cases h
      rw [text_slotRules]
      exact ⟨want, _, hwant, he, writesOver ctx desired observed slot want, rfl, ofText_toText⟩

/-- Slot 0 is declared empty and slot 2 not at all; the device in slot 1 is on another bridge. -/
example : nicIntents vmSlotRules (.explicit [.disabled, { bridgedNic "virtio" with bridge := none, mac := none }])
    (.explicit [bridgedNic "e1000", bridgedNic "virtio", bridgedNic "virtio"]) =
    [.delete "net0" .disabled,
      .update "network_devices[1]" "net1" "model=virtio,macaddr=BC:24:11:2E:3F:01" .drift,
      .delete "net2" .prune] := by
  decide +kernel

end Plan

end Steward
