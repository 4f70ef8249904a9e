/-
The network slots of an instance as rules: what a slot leads to follows from what its own parameter
holds, and the device that is written there reads back as one that the slot is satisfied with. Together
with the settings these are all rules of a comparison (`passDiff_intents`).
-/
import Mathlib
import Steward.Proofs.SettingRules

namespace Steward.Plan

open PropertyString

/-! ## Slots one by one -/

theorem filterMap_zipIdx_eq {α β : Type} (f : α → Nat → Option β) {xs : List α} {k m : Nat}
    (h : xs.length ≤ m) :
    (xs.zipIdx k).filterMap (fun (a, n) => f a n) =
      (List.range' k m).filterMap fun n => xs[n - k]?.bind fun a => f a n := by
  induction xs generalizing k m with
  | nil => simp
  | cons x xs ih =>
    obtain ⟨m, rfl⟩ : ∃ l, m = l + 1 := ⟨m - 1, by simp at h; omega⟩
    have hrest : (List.range' (k + 1) m).filterMap (fun n => xs[n - (k + 1)]?.bind fun a => f a n) =
        (List.range' (k + 1) m).filterMap fun n => (x :: xs)[n - k]?.bind fun a => f a n := by
      refine List.filterMap_congr fun n hn => ?_
      obtain ⟨l, rfl⟩ : ∃ l, n = k + 1 + l := ⟨n - (k + 1), by have := (List.mem_range'_1.1 hn).1; omega⟩
      have hl : k + 1 + l - k = l + 1 := by omega
      simp [hl]
    rw [List.zipIdx_cons, List.range'_succ, List.filterMap_cons, List.filterMap_cons,
      ih (by simpa using h), hrest]
    simp

/-- What a slot leads to, whether it is declared or not; `seen` is the device that it holds. -/
def slotStep? (rules : SlotRules) (slot : Nat) (want seen : Option Nic) : Option Intent :=
  match want with
  | some nic => slotIntent? rules slot nic seen
  | none => seen.map fun _ => .delete (nicSlot slot) .prune

theorem bind_pruneIntent? (rules : SlotRules) (slot : Nat) (found : Option Nic) :
    found.bind (pruneIntent? slot) = slotStep? rules slot none (found.filter Nic.enabled) := by
  cases found with
  | none => rfl
  | some nic => cases he : nic.enabled <;> simp [pruneIntent?, slotStep?, Option.filter_some, he]

theorem drop_zipIdx {α : Type} (xs : List α) (k : Nat) : xs.zipIdx.drop k = (xs.drop k).zipIdx k := by
  refine List.ext_getElem? fun n => ?_
  rw [List.getElem?_drop, List.getElem?_zipIdx, List.getElem?_zipIdx, List.getElem?_drop, Nat.zero_add]

/-- The slots do not depend on each other. -/
theorem slotIntents_eq (rules : SlotRules) {limit : Nat} {want found : List Nic} (hw : want.length ≤ limit)
    (hf : found.length ≤ limit) :
    slotIntents rules want found = (List.range limit).filterMap fun slot =>
      slotStep? rules slot want[slot]? ((found[slot]?).filter Nic.enabled) := by
  have hsplit : List.range limit = List.range' 0 want.length ++ List.range' want.length
      (limit - want.length) := by
    have := List.range'_append_1 (s := 0) (m := want.length) (n := limit - want.length)
    rw [List.range_eq_range', Nat.zero_add, Nat.add_sub_cancel' hw] at *
    exact this.symm
  have hdeclared := filterMap_zipIdx_eq (fun nic slot => slotIntent? rules slot nic
      ((found[slot]?).filter Nic.enabled))
    (k := 0) (le_refl want.length)
  have hbehind : (found.drop want.length).length ≤ limit - want.length := by rw [List.length_drop]; omega
  have hpruned := filterMap_zipIdx_eq (fun nic slot => pruneIntent? slot nic) (k := want.length) hbehind
  rw [slotIntents, hsplit, List.filterMap_append, drop_zipIdx, hdeclared, hpruned]
  congr 1
  · refine List.filterMap_congr fun slot hslot => ?_
    have hlt : slot < want.length := by simpa using (List.mem_range'_1.1 hslot).2
    simp [slotStep?, hlt]
  · refine List.filterMap_congr fun slot hslot => ?_
    have hle : want.length ≤ slot := (List.mem_range'_1.1 hslot).1
    rw [List.getElem?_drop, Nat.add_sub_cancel' hle, List.getElem?_eq_none hle]
    exact bind_pruneIntent? rules slot _

/-! ## The rule of a slot -/

/-- The addresses that a container's slot is written with: the declared ones, or else those that it has. -/
def addressesAt (want : Option (List IpConfig)) (slot : Nat) (seen : IpConfig) : IpConfig :=
  want.elim seen fun declared => (declared[slot]?).getD .none

/-- How a slot is compared and written, by nothing but the addresses that it has itself. -/
def slotRulesAt (kind : Kind) (want : Option (List IpConfig)) (seen : IpConfig) : SlotRules :=
  match kind with
  | .vm => vmSlotRules
  | .container =>
    { satisfied := fun slot nic found => nic.satisfiedBy found && addressesAt want slot seen == seen
      text := fun slot nic => nic.toContainerText slot (some (addressesAt want slot seen)) }

def nicRule (kind : Kind) (want : Config) (slot : Nat) : ParamRule where
  param := nicSlot slot
  step value :=
    let seen := kind.seenIn value
    slotStep? (slotRulesAt kind (want.cloudInit.map (·.ipConfigs)) ((seen.map (·.2)).getD .none)) slot
      want.nics.value[slot]? (seen.map (·.1))

def nicRules (kind : Kind) (want : Config) : List ParamRule :=
  if want.nics.isPolicy then [] else (List.range maxNics).map (nicRule kind want)

/-- A slot is compared by what the rules say of it, not of other slots. -/
theorem slotStep?_congr {a b : SlotRules} {slot : Nat} (hs : a.satisfied slot = b.satisfied slot)
    (ht : a.text slot = b.text slot) (want seen : Option Nic) :
      slotStep? a slot want seen = slotStep? b slot want seen := by
  cases want <;> simp [slotStep?, slotIntent?, hs, ht]

theorem slotStep?_containerSlotRules (addresses : Option (List IpConfig)) (found : List IpConfig) (slot : Nat)
    (want seen : Option Nic) :
    slotStep? (containerSlotRules addresses found) slot want seen =
      slotStep? (slotRulesAt .container addresses ((found[slot]?).getD .none)) slot want seen :=
  slotStep?_congr (by cases addresses <;> rfl) (by cases addresses <;> rfl) want seen

theorem intents_networks {ctx : DiffContext} {want observed : Config} {remote : Remote}
    (hw : want.nics.value.length ≤ maxNics)
    (hn : observed.nics.value = (remote.networkSlots ctx.kind).map (·.1))
    (ha : ctx.kind = .container →
      (observed.cloudInit.map (·.ipConfigs)).getD [] = (remote.networkSlots ctx.kind).map (·.2)) :
    networkIntents ctx want observed = ParamRule.steps (nicRules ctx.kind want) remote := by
  rw [networkIntents, nicIntents, nicRules]
  split
  · rfl
  · have hlength : observed.nics.value.length ≤ maxNics := by
      rw [hn, List.length_map]
      exact remote.length_networkSlots_le ctx.kind
    rw [slotIntents_eq _ hw hlength, ParamRule.steps, List.filterMap_map]
    refine List.filterMap_congr fun slot hslot => ?_
    have hlt : slot < maxNics := List.mem_range.1 hslot
    rw [hn, remote.filter_enabled_networkSlots ctx.kind hlt]
    cases hk : ctx.kind with
    | vm =>
      rw [slotRules, hk]
      rfl
    | container =>
      have hseen := remote.getD_addresses_networkSlots ctx.kind hlt
      rw [← ha hk, hk] at hseen
      rw [slotRules, hk, Function.comp_apply, ParamRule.stepIn, nicRule]
      dsimp only
      rw [← hseen]
      exact slotStep?_containerSlotRules _ _ _ _ _

/-! ## A slot is satisfied with what is written there -/

theorem writable_addressesAt {want : Option (List IpConfig)} {seen : IpConfig}
    (hw : ∀ declared ∈ want, ∀ ip ∈ declared, ip.Writable) (hs : seen.Writable) (slot : Nat) :
    (addressesAt want slot seen).Writable := by
  cases want with
  | none => exact hs
  | some declared =>
    rw [addressesAt, Option.elim_some]
    cases hg : declared[slot]? with
    | none => exact IpConfig.writable_none
    | some ip => exact hw declared rfl ip (List.mem_of_getElem? hg)

/-- Addresses that were written are those that are wanted from then on. -/
theorem addressesAt_addressesAt (want : Option (List IpConfig)) (slot : Nat) (seen : IpConfig) :
    addressesAt want slot (addressesAt want slot seen) = addressesAt want slot seen := by
  cases want <;> rfl

/-- What a slot is set to reads back as a device that the slot is satisfied with. -/
theorem exists_readNic_text {kind : Kind} {addresses : Option (List IpConfig)} (slot : Nat) {nic : Nic}
    {mac : Option String} {seen : IpConfig} (he : nic.enabled = true) (hw : nic.Writable)
    (hmodel : kind = .container → nic.model = containerModel) (hm : ∀ s ∈ mac, IsValue s)
    (ha : kind = .container → ∀ declared ∈ addresses, ∀ ip ∈ declared, ip.Writable) (hs : seen.Writable) :
    ∃ found, kind.readNic ((slotRulesAt kind addresses seen).text slot
      { nic with mac := nic.mac <|> mac }) = .ok found ∧
      (slotRulesAt kind addresses found.2).satisfied slot nic found.1 = true := by
  have hwritten := hw.withMac hm
  cases kind with
  | vm =>
    obtain ⟨rate, hrate, hread⟩ := Nic.ofText_toText hwritten
    refine ⟨({ nic with enabled := true, mac := nic.mac <|> mac, rate := rate }, .none), ?_,
      Nic.satisfiedBy_written he hrate⟩
    simp only [slotRulesAt, vmSlotRules, Kind.readNic, hread]
    rfl
  | container =>
    obtain ⟨rate, hrate, hread⟩ :=
      Nic.ofContainerText_toContainerText hwritten slot (writable_addressesAt (ha rfl) hs slot)
    refine ⟨({ nic with enabled := true, mac := nic.mac <|> mac, rate := rate },
      addressesAt addresses slot seen), ?_, ?_⟩
    · rw [hmodel rfl.symm]
      exact hread
    · simpa [slotRulesAt, addressesAt_addressesAt] using Nic.satisfiedBy_written he hrate

theorem seenIn_string {kind : Kind} {text : String} {found : Nic × IpConfig}
    (h : kind.readNic text = .ok found) :
    kind.seenIn (some (.string text)) = some found := by
  simp [Kind.seenIn, Remote.textOf?, h, Except.toOption]

theorem readable_string {kind : Kind} {text : String} {found : Nic × IpConfig}
    (h : kind.readNic text = .ok found) :
    kind.Readable (some (.string text)) := by
  intro t ht
  obtain rfl : text = t := by simpa [Remote.textOf?] using ht
  exact ⟨found, h⟩

/-- What a slot takes over from what it holds was read, and can be written again. -/
theorem writable_seenIn (kind : Kind) (value : Option Json) :
    (∀ s ∈ ((kind.seenIn value).map (·.1)).bind Nic.mac, IsValue s) ∧
      IpConfig.Writable (((kind.seenIn value).map (·.2)).getD .none) := by
  cases hs : kind.seenIn value with
  | none => exact ⟨by simp, IpConfig.writable_none⟩
  | some seen =>
    obtain ⟨hread, haddresses⟩ := Kind.wasRead_of_seenIn hs
    exact ⟨hread.mac, haddresses⟩

/-- A device that is to be there is written with the address that the slot has, unless it is as wanted. -/
theorem update_of_slotIntent? {rules : SlotRules} {slot : Nat} {nic : Nic} {seen : Option Nic} {i : Intent}
    (he : nic.enabled = true) (hi : slotIntent? rules slot nic seen = some i) :
    ∃ field reason, i = .update field (nicSlot slot)
      (rules.text slot { nic with mac := nic.mac <|> seen.bind Nic.mac }) reason := by
  unfold slotIntent? at hi
  split at hi
  · simp_all
  · simp_all
  · have hnic : ({ nic with mac := nic.mac <|> none } : Nic) = nic := by simp
    refine ⟨nicField slot, .create, ?_⟩
    rw [Option.bind_none, hnic]
    exact (Option.some.inj hi).symm
  · split at hi
    · cases hi
    · exact ⟨nicField slot, .drift, (Option.some.inj hi).symm⟩

theorem param?_of_slotIntent? {rules : SlotRules} {slot : Nat} {nic : Nic} {seen : Option Nic} {i : Intent}
    (hi : slotIntent? rules slot nic seen = some i) : i.op.param? = some (nicSlot slot) := by
  unfold slotIntent? at hi
  split at hi
  · cases hi; rfl
  · cases hi
  · cases hi; rfl
  · split at hi
    · cases hi
    · cases hi; rfl

theorem slotIntent?_of_satisfied {rules : SlotRules} {slot : Nat} {nic seen : Nic} (he : nic.enabled = true)
    (h : rules.satisfied slot nic seen = true) : slotIntent? rules slot nic (some seen) = none := by
  rw [slotIntent?.eq_def, he]
  exact if_pos h

/-- The step of a slot removes the device, or writes one that is as wanted. -/
theorem nicRule_step {kind : Kind} {want : Config} (hd : want.Declared kind) (hw : want.Writable kind)
    {slot : Nat} {value : Option Json} {i : Intent} (hi : (nicRule kind want slot).step value = some i) :
    kind.Readable i.op.stored? ∧ (nicRule kind want slot).step i.op.stored? = none := by
  have hremoved : kind.Readable none ∧ kind.seenIn none = none := by simp [Kind.Readable, Kind.seenIn]
  simp only [nicRule] at hi ⊢
  cases hwant : want.nics.value[slot]? with
  | none =>
    rw [hwant] at hi
    obtain ⟨seen, -, rfl⟩ := Option.map_eq_some_iff.1 hi
    exact ⟨hremoved.1, by simp [Intent.delete, Operation.stored?, hremoved.2, slotStep?]⟩
  | some nic =>
    rw [hwant] at hi
    have hmem : nic ∈ want.nics.value := List.mem_of_getElem? hwant
    have ha : kind = .container → ∀ declared ∈ want.cloudInit.map (·.ipConfigs), ∀ ip ∈ declared,
        ip.Writable := by
      intro hk declared hdeclared
      obtain ⟨init, hinit, rfl⟩ := Option.map_eq_some_iff.1 hdeclared
      exact hw.addresses hk init hinit
    cases he : nic.enabled with
    | false =>
      cases hs : kind.seenIn value with
      | none => simp [hs, slotStep?, slotIntent?, he] at hi
      | some seen =>
        obtain rfl : .delete (nicSlot slot) .disabled = i := by
          simpa [hs, slotStep?, slotIntent?, he] using hi
        exact ⟨hremoved.1, by simp [Intent.delete, Operation.stored?, hremoved.2, slotStep?, slotIntent?, he]⟩
    | true =>
      obtain ⟨hmac, hseen⟩ := writable_seenIn kind value
      obtain ⟨field, reason, rfl⟩ := update_of_slotIntent? he hi
      obtain ⟨found, hread, hsatisfied⟩ :=
        exists_readNic_text slot he (hw.nics nic hmem he) (fun hk => hd.models hk nic hmem) hmac ha hseen
      refine ⟨readable_string hread, ?_⟩
      rw [Intent.update, Operation.stored?, seenIn_string hread]
      exact slotIntent?_of_satisfied he hsatisfied

theorem names_nicRule (kind : Kind) (want : Config) (slot : Nat) : (nicRule kind want slot).Names := by
  intro value i hi
  simp only [nicRule] at hi ⊢
  cases hwant : want.nics.value[slot]? with
  | none =>
    rw [hwant] at hi
    obtain ⟨seen, -, rfl⟩ := Option.map_eq_some_iff.1 hi
    rfl
  | some nic =>
    rw [hwant] at hi
    exact param?_of_slotIntent? hi

theorem settles_nicRule {kind : Kind} {want : Config} (hd : want.Declared kind) (hw : want.Writable kind)
    (slot : Nat) :
    (nicRule kind want slot).Settles := fun _ _ hi => (nicRule_step hd hw hi).2

end Steward.Plan
