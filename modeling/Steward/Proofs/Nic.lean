/-
Network parameters read back the device that they were printed from, for both kinds of instances, and
the addresses of the guest with it. What a device takes over from what is already there (its hardware
address, the guest's addresses) was read from such a text and can be written again.
-/
import Mathlib
import Steward.Proofs.Except
import Steward.Proofs.Notation
import Steward.Proofs.ShortestDecimal

namespace Steward

open PropertyString

/-! ## Rates -/

/-- A rate whose text reads back as the same number. -/
def RateSurvives (rate : Option Binary64) : Prop :=
  ∀ x ∈ rate, ∃ y, Binary64.ofText? x.toText = some y ∧ x.equals y = true

instance (rate : Option Binary64) : Decidable (RateSurvives rate) :=
  decidable_of_iff (∀ x ∈ rate, (Binary64.ofText? x.toText).any x.equals = true)
    (by simp [RateSurvives, Option.any_eq_true])

namespace Binary64

/-- The characters of numbers. -/
def isNumberChar (c : Char) : Bool := c.isDigit || "-.NaNinf".toList.contains c

theorem all_isNumberChar_positional (d : Decimal) : (positional d).toList.all isNumberChar = true := by
  have hdigits : (Nat.toDigits 10 d.digits).all isNumberChar = true := List.all_eq_true.2 fun c hc => by
    simp [isNumberChar, Nat.isDigit_of_mem_toDigits (by decide) (by decide) hc]
  have hzeros : ∀ n, (List.replicate n '0').all isNumberChar = true :=
    fun n => List.all_eq_true.2 fun c hc => by
    rw [List.eq_of_mem_replicate hc]; decide
  rw [positional]
  split
  · rw [String.toList_ofList, List.all_append, hdigits, hzeros, Bool.and_true]
  · have hall : ∀ n, (List.replicate n '0' ++ Nat.toDigits 10 d.digits).all isNumberChar = true := fun n => by
      rw [List.all_append, hdigits, hzeros, Bool.and_true]
    rw [String.toList_ofList, List.all_append, List.all_cons, Bool.and_eq_true, Bool.and_eq_true]
    refine ⟨List.all_eq_true.2 fun c hc => ?_, by decide, List.all_eq_true.2 fun c hc => ?_⟩
    · exact List.all_eq_true.1 (hall _) c (List.mem_of_mem_take hc)
    · exact List.all_eq_true.1 (hall _) c (List.mem_of_mem_drop hc)

theorem all_isNumberChar_toText (x : Binary64) : x.toText.toList.all isNumberChar = true := by
  cases x with
  | nan => decide
  | infinite s => cases s <;> decide
  | finite s m p =>
    rw [toText, String.toList_append, List.all_append, Bool.and_eq_true]
    refine ⟨by cases s <;> decide, ?_⟩
    split
    · decide
    · exact all_isNumberChar_positional _

theorem isBlank_of_isNumberChar {c : Char} (h : isNumberChar c = true) : Text.isBlank c = false := by
  rw [isNumberChar, Bool.or_eq_true] at h
  rcases h with h | h
  · exact Text.isBlank_of_isDigit h
  · have hall : "-.NaNinf".toList.all (fun c => !Text.isBlank c) = true := by decide
    simpa using List.all_eq_true.1 hall c (by simpa using h)

theorem isValue_toText (x : Binary64) : IsValue x.toText := by
  have hall := List.all_eq_true.1 (all_isNumberChar_toText x)
  refine ⟨fun hc => absurd (hall _ hc) (by decide), ?_⟩
  exact Text.endsBlank_eq_false fun c hc => isBlank_of_isNumberChar (hall c hc)

end Binary64

/-! ## Addresses of the guest -/

namespace IpConfig

/-- Addresses that can be written. -/
def Writable (c : IpConfig) : Prop :=
  (∀ s ∈ c.ipv4, IsValue s) ∧ (∀ s ∈ c.gateway4, IsValue s) ∧ (∀ s ∈ c.ipv6, IsValue s) ∧
    ∀ s ∈ c.gateway6, IsValue s

instance (c : IpConfig) : Decidable c.Writable := inferInstanceAs (Decidable (_ ∧ _))

theorem writable_none : Writable none := by simp [Writable, none]

theorem Writable.arePairs {c : IpConfig} (h : c.Writable) : ArePairs c.pairs := by
  simp only [pairs, arePairs_append]
  exact ⟨⟨⟨arePairs_optional (by decide) h.1, arePairs_optional (by decide) h.2.1⟩,
    arePairs_optional (by decide) h.2.2.1⟩, arePairs_optional (by decide) h.2.2.2⟩

/-- What was read can be written. -/
theorem writable_ofText (s : String) : (ofText s).Writable :=
  ⟨fun _ h => isValue_of_get? h, fun _ h => isValue_of_get? h, fun _ h => isValue_of_get? h,
    fun _ h => isValue_of_get? h⟩

theorem ofText_toText {c : IpConfig} (h : c.Writable) : ofText c.toText = c := by
  rw [ofText, toText, PropertyString.ofText_toText h.arePairs.wellFormed]
  simp [ofProperties, get?_eq, pairs, lookup?_append]

end IpConfig

namespace Nic

/-- A device whose texts its parameter can carry. -/
structure Writable (nic : Nic) : Prop where
  model : nic.model ≠ "" ∧ IsValue nic.model
  bridge : ∀ s ∈ nic.bridge, IsValue s
  mac : ∀ s ∈ nic.mac, IsValue s
  rate : RateSurvives nic.rate

instance (nic : Nic) : Decidable nic.Writable :=
  decidable_of_iff
    ((nic.model ≠ "" ∧ IsValue nic.model) ∧ (∀ s ∈ nic.bridge, IsValue s) ∧ (∀ s ∈ nic.mac, IsValue s) ∧
      RateSurvives nic.rate)
    ⟨fun ⟨h1, h2, h3, h4⟩ => ⟨h1, h2, h3, h4⟩, fun ⟨h1, h2, h3, h4⟩ => ⟨h1, h2, h3, h4⟩⟩

theorem arePairs_commonPairs (nic : Nic) : ArePairs nic.commonPairs := by
  have hnumber : ∀ n, ∀ v ∈ number n, IsValue v := fun n => by cases n <;> simp [number]
  have hrate : ∀ v ∈ nic.rate.map Binary64.toText, IsValue v := fun v hv => by
    obtain ⟨x, -, rfl⟩ := Option.map_eq_some_iff.1 hv
    exact x.isValue_toText
  simp only [commonPairs, arePairs_append]
  exact ⟨⟨⟨arePairs_optional (by decide) (hnumber _), arePairs_optional (by decide) hrate⟩,
    arePairs_optional (by decide) (hnumber _)⟩, arePairs_flag (by decide)⟩

/-- The rate that is read back, equal as a number. -/
theorem exists_rate {rate : Option Binary64} (h : RateSurvives rate) :
    ∃ seen, sameRate rate seen = true ∧ rate.map (fun x => Binary64.ofText? x.toText) = seen.map some := by
  cases rate with
  | none => exact ⟨none, rfl, rfl⟩
  | some x =>
    obtain ⟨y, hy, hxy⟩ := h x rfl
    exact ⟨some y, hxy, by simpa using hy⟩

/-- A device that takes over the hardware address that is there. -/
theorem Writable.withMac {nic : Nic} (h : nic.Writable) {mac : Option String} (hm : ∀ s ∈ mac, IsValue s) :
    ({ nic with mac := nic.mac <|> mac } : Nic).Writable := by
  refine ⟨h.model, h.bridge, ?_, h.rate⟩
  cases hn : nic.mac with
  | none => simpa [hn] using hm
  | some s => simpa [hn] using h.mac s hn

theorem Writable.withoutRate {nic : Nic} (h : nic.Writable) : ({ nic with rate := none } : Nic).Writable :=
  ⟨h.model, h.bridge, h.mac, by simp [RateSurvives]⟩

/-- A device is satisfied with itself as it is read back. -/
theorem satisfiedBy_written {nic : Nic} {mac : Option String} {rate : Option Binary64}
    (he : nic.enabled = true) (hrate : sameRate nic.rate rate = true) :
    nic.satisfiedBy { nic with enabled := true, mac := nic.mac <|> mac, rate := rate } = true := by
  have hmac : nic.mac.all (fun m => (nic.mac.or mac).any (sameMac m)) = true := by
    cases nic.mac <;> simp [sameMac]
  simp [satisfiedBy, he, hrate, hmac]

/-! ## Virtual machines -/

theorem updateAll_append (nic : Nic) (xs ys : List (String × String)) :
    updateAll nic (xs ++ ys) = (updateAll nic xs).bind fun nic => updateAll nic ys := by
  induction xs generalizing nic with
  | nil => rfl
  | cons pair xs ih =>
    rw [List.cons_append, updateAll, updateAll]
    cases h : nic.update pair.1 pair.2 with
    | error e => rfl
    | ok seen => exact ih seen

/-- A pair that is left out changes nothing; one that is there sets what it names. -/
theorem updateAll_optional {nic next : Nic} {key : String} {value : Option String}
    (hnone : value = none → next = nic) (hsome : ∀ v ∈ value, nic.update key v = .ok next) :
    updateAll nic (optional key value) = .ok next := by
  cases value with
  | none => rw [hnone rfl]; rfl
  | some v => simp [PropertyString.optional, updateAll, hsome v rfl, bind, Except.bind]

theorem updateAll_flag {nic next : Nic} {key : String} {set : Bool} (hunset : set = false → next = nic)
    (hset : set = true → nic.update key "1" = .ok next) : updateAll nic (flag key set) = .ok next := by
  cases set with
  | false => rw [hunset rfl]; rfl
  | true => simp [flag, updateAll, hset rfl, bind, Except.bind]

/-- The pairs that both kinds of devices end with, for a device that has none of them yet. -/
theorem updateAll_commonPairs {nic : Nic} (base : Nic) {rate : Option Binary64}
    (hrate : nic.rate.map (fun x => Binary64.ofText? x.toText) = rate.map some) :
    updateAll { base with vlan := none, rate := none, mtu := none, firewall := false } nic.commonPairs =
      .ok { base with vlan := nic.vlan, rate := rate, mtu := nic.mtu, firewall := nic.firewall } := by
  have htag : updateAll { base with vlan := none, rate := none, mtu := none, firewall := false }
      (optional "tag" (number nic.vlan)) =
      .ok { base with vlan := nic.vlan, rate := none, mtu := none, firewall := false } := by
    refine updateAll_optional (fun hn => ?_) fun s hs => ?_
    · rw [Option.map_eq_none_iff.1 hn]
    · obtain ⟨n, hn, rfl⟩ := Option.map_eq_some_iff.1 hs
      simp [update, valueOf, Text.uint16?_decimal, Except.map, hn]
  have hrate : updateAll { base with vlan := nic.vlan, rate := none, mtu := none, firewall := false }
      (optional "rate" (nic.rate.map Binary64.toText)) =
      .ok { base with vlan := nic.vlan, rate := rate, mtu := none, firewall := false } := by
    refine updateAll_optional (fun hn => ?_) fun s hs => ?_
    · rw [Option.map_eq_none_iff.1 hn] at hrate
      rw [Option.map_eq_none_iff.1 hrate.symm]
    · obtain ⟨x, hx, rfl⟩ := Option.map_eq_some_iff.1 hs
      rw [hx] at hrate
      obtain ⟨y, hy, hread⟩ := Option.map_eq_some_iff.1 hrate.symm
      simp [update, valueOf, ← hread, Except.map, hy]
  have hmtu : updateAll { base with vlan := nic.vlan, rate := rate, mtu := none, firewall := false }
      (optional "mtu" (number nic.mtu)) =
      .ok { base with vlan := nic.vlan, rate := rate, mtu := nic.mtu, firewall := false } := by
    refine updateAll_optional (fun hn => ?_) fun s hs => ?_
    · rw [Option.map_eq_none_iff.1 hn]
    · obtain ⟨n, hn, rfl⟩ := Option.map_eq_some_iff.1 hs
      simp [update, valueOf, Text.uint16?_decimal, Except.map, hn]
  have hfirewall : updateAll { base with vlan := nic.vlan, rate := rate, mtu := nic.mtu, firewall := false }
      (flag "firewall" nic.firewall) =
      .ok { base with vlan := nic.vlan, rate := rate, mtu := nic.mtu, firewall := nic.firewall } := by
    refine updateAll_flag (fun hn => ?_) fun hs => ?_
    · rw [hn]
    · simp [update, hs]
  simp only [commonPairs, updateAll_append, htag, hrate, hmtu, hfirewall, Except.bind]

/-- A device whose texts can be carried reads back with the rate that its rate's text reads back as. -/
theorem ofText_toText_of_rate {nic : Nic} (h : ({ nic with rate := none } : Nic).Writable)
    {rate : Option Binary64} (hread : nic.rate.map (fun x => Binary64.ofText? x.toText) = rate.map some) :
    ofText nic.toText = .ok { nic with enabled := true, rate := rate } := by
  let base : Nic := { disabled with enabled := true }
  have hmodel : base.update "model" nic.model = .ok { base with model := nic.model } := by simp [update]
  have hbridge : updateAll { base with model := nic.model } (optional "bridge" nic.bridge) =
      .ok { base with model := nic.model, bridge := nic.bridge } :=
    updateAll_optional (fun hn => by rw [hn]; rfl) fun s hs => by
      obtain hs : nic.bridge = some s := hs
      simp [update, hs]
  have hmac : updateAll { base with model := nic.model, bridge := nic.bridge } (optional "macaddr" nic.mac) =
      .ok { base with model := nic.model, bridge := nic.bridge, mac := nic.mac } :=
    updateAll_optional (fun hn => by rw [hn]; rfl) fun s hs => by
      obtain hs : nic.mac = some s := hs
      simp [update, hs]
  have hw : ArePairs (("model", nic.model) :: optional "bridge" nic.bridge ++ optional "macaddr" nic.mac ++
      nic.commonPairs) := by
    simp only [List.cons_append, arePairs_cons, arePairs_append]
    exact ⟨⟨by decide, h.model.2⟩, ⟨arePairs_optional (by decide) h.bridge,
      arePairs_optional (by decide) h.mac⟩, arePairs_commonPairs nic⟩
  have hread : updateAll base (("model", nic.model) :: optional "bridge" nic.bridge ++
      optional "macaddr" nic.mac ++
      nic.commonPairs) = .ok { nic with enabled := true, rate := rate } := by
    rw [List.cons_append, List.cons_append, updateAll, hmodel]
    simp only [bind, Except.bind]
    rw [updateAll_append, updateAll_append, hbridge]
    simp only [Except.bind]
    rw [hmac]
    simp only
    exact updateAll_commonPairs { nic with enabled := true } hread
  rw [ofText, toText, PropertyString.ofText_toText hw.wellFormed]
  simp only [bind, Except.bind]
  rw [hread]
  simp [h.model.1]

theorem ofText_toText {nic : Nic} (h : nic.Writable) :
    ∃ rate, sameRate nic.rate rate = true ∧ ofText nic.toText =
      .ok { nic with enabled := true, rate := rate } := by
  obtain ⟨rate, hsame, hread⟩ := exists_rate h.rate
  exact ⟨rate, hsame, ofText_toText_of_rate h.withoutRate hread⟩

/-- What every device is that was read: one in use, whose texts can be written again and whose rate is in lowest
power. -/
structure WasRead (nic : Nic) : Prop where
  enabled : nic.enabled = true
  model : IsValue nic.model
  bridge : ∀ s ∈ nic.bridge, IsValue s
  mac : ∀ s ∈ nic.mac, IsValue s
  rate : ∀ x ∈ nic.rate, x.Canonical

theorem valueOf_eq_ok_iff {α : Type} {read : String → Option α} {why : Malformed} {key value : String}
    {a : α} : valueOf read why key value = .ok a ↔ read value = some a := by
  rw [valueOf]
  cases read value <;> simp

theorem WasRead.update {nic next : Nic} (h : nic.WasRead) {key value : String} (hv : IsValue value)
    (hu : nic.update key value = .ok next) : next.WasRead := by
  have hsome : ∀ s ∈ some value, IsValue s := by simpa using hv
  simp only [Nic.update] at hu
  split_ifs at hu with hmodel hmac hbridge htag hrate hmtu hfirewall hknown
  · cases hu
    exact { h with model := hv }
  · cases hu
    exact { h with mac := hsome }
  · cases hu
    exact { h with bridge := hsome }
  · obtain ⟨vlan, -, rfl⟩ := Except.map_eq_ok_iff.1 hu
    exact { h with }
  · obtain ⟨rate, hread, rfl⟩ := Except.map_eq_ok_iff.1 hu
    have hcanonical := Binary64.canonical_of_ofText? (valueOf_eq_ok_iff.1 hread)
    exact { h with rate := by simpa using hcanonical }
  · obtain ⟨mtu, -, rfl⟩ := Except.map_eq_ok_iff.1 hu
    exact { h with }
  · cases hu
    exact { h with }
  · cases hu
    have hvalues : ∀ model ∈ models, IsValue model := by decide
    exact { h with model := hvalues key (by simpa using hknown), mac := hsome }
  · cases hu
    exact h

theorem WasRead.updateAll {nic next : Nic} (h : nic.WasRead) {pairs : List (String × String)}
    (hp : ArePairs pairs) (hu : nic.updateAll pairs = .ok next) : next.WasRead := by
  induction pairs generalizing nic with
  | nil => cases hu; exact h
  | cons pair pairs ih =>
    rw [Nic.updateAll] at hu
    cases hs : nic.update pair.1 pair.2 with
    | error e => rw [hs] at hu; cases hu
    | ok seen =>
      rw [hs] at hu
      obtain ⟨⟨-, hv⟩, hp⟩ := arePairs_cons.1 hp
      exact ih (h.update hv hs) hp hu

theorem wasRead_of_ofText {text : String} {nic : Nic} (h : ofText text = .ok nic) :
    nic.WasRead ∧ nic.model ≠ "" := by
  have hstart : ({ disabled with enabled := true } : Nic).WasRead :=
    ⟨rfl, by decide, by simp [disabled], by simp [disabled], by simp [disabled]⟩
  rw [ofText] at h
  cases hu : updateAll { disabled with enabled := true } (PropertyString.ofText text).pairs with
  | error e => rw [hu] at h; cases h
  | ok seen =>
    rw [hu] at h
    simp only [bind, Except.bind] at h
    split at h
    · cases h
    · rename_i hmodel
      cases h
      exact ⟨hstart.updateAll (wellFormed_ofText text).pairs hu, by simpa using hmodel⟩

/-! ## Containers -/

/-- Addresses that are left out are written as those that say nothing. -/
theorem toContainerText_eq (slot : Nat) (nic : Nic) (ip : Option IpConfig) :
    nic.toContainerText slot ip = nic.toContainerText slot (some (ip.getD .none)) := by
  cases ip <;> rfl

theorem isValue_guestName (slot : Nat) : IsValue ("eth" ++ Text.decimal slot) :=
  (IsWord.append (by decide) (isWord_decimal slot)).isValue

theorem optionalValue_of_get? {α : Type} {p : PropertyString} {read : String → Option α} (why : Malformed)
    {key : String} {value : Option α} (h : (p.get? key).map read = value.map some) :
    optionalValue p read why key = .ok value := by
  rw [optionalValue]
  cases hg : p.get? key with
  | none =>
    rw [hg] at h
    rw [Option.map_eq_none_iff.1 h.symm]
  | some text =>
    rw [hg] at h
    obtain ⟨a, rfl, ha⟩ := Option.map_eq_some_iff.1 h.symm
    simp [valueOf, ← ha, Except.map]

theorem ofContainerText_toContainerText_of_rate {nic : Nic} (hbridge : ∀ s ∈ nic.bridge, IsValue s)
    (hmac : ∀ s ∈ nic.mac, IsValue s) {rate : Option Binary64}
    (hrate : nic.rate.map (fun x => Binary64.ofText? x.toText) = rate.map some) (slot : Nat) {ip : IpConfig}
    (hip : ip.Writable) : ofContainerText (nic.toContainerText slot (some ip)) =
      .ok ({ nic with enabled := true, model := containerModel, rate := rate }, ip) := by
  let pairs := ("name", "eth" ++ Text.decimal slot) :: optional "bridge" nic.bridge ++
    optional "hwaddr" nic.mac ++ ip.pairs ++ nic.commonPairs
  have hw : ArePairs pairs := by
    simp only [pairs, List.cons_append, arePairs_cons, arePairs_append]
    exact ⟨⟨by decide, isValue_guestName slot⟩, ⟨⟨arePairs_optional (by decide) hbridge,
      arePairs_optional (by decide) hmac⟩, hip.arePairs⟩, arePairs_commonPairs nic⟩
  have hread : PropertyString.ofText (nic.toContainerText slot (some ip)) = ⟨none, pairs⟩ :=
    PropertyString.ofText_toText hw.wellFormed
  have hget : ∀ key, (⟨none, pairs⟩ : PropertyString).get? key = lookup? pairs key := fun key => get?_eq _ key
  have hnumber : ∀ n : Option UInt16, (number n).map Text.uint16? = n.map some := fun n => by
    cases n <;> simp [number, Text.uint16?_decimal]
  have hname : lookup? pairs "name" = some ("eth" ++ Text.decimal slot) := by simp [pairs, lookup?_cons]
  have htag : lookup? pairs "tag" = number nic.vlan := by
    simp [pairs, lookup?_cons, lookup?_append, IpConfig.pairs, commonPairs]
  have hrateText : lookup? pairs "rate" = nic.rate.map Binary64.toText := by
    simp [pairs, lookup?_cons, lookup?_append, IpConfig.pairs, commonPairs]
  have hmtu : lookup? pairs "mtu" = number nic.mtu := by
    simp [pairs, lookup?_cons, lookup?_append, IpConfig.pairs, commonPairs]
  have hfirewall : (lookup? pairs "firewall").any isTrueWord = nic.firewall := by
    cases hf : nic.firewall <;> simp [pairs, lookup?_cons, lookup?_append, IpConfig.pairs, commonPairs, hf]
  simp only [ofContainerText, hread, hget, hname, Option.isNone_some, Bool.false_eq_true, if_false]
  have hvlanRead := optionalValue_of_get? (p := ⟨none, pairs⟩) .vlan (by rw [hget, htag, hnumber nic.vlan])
  have hmtuRead := optionalValue_of_get? (p := ⟨none, pairs⟩) .mtu (by rw [hget, hmtu, hnumber nic.mtu])
  have hrateRead : optionalValue ⟨none, pairs⟩ Binary64.ofText? .rate "rate" = .ok rate :=
    optionalValue_of_get? .rate (by rw [hget, hrateText, Option.map_map]; exact hrate)
  rw [hvlanRead, hrateRead, hmtuRead]
  simp only [bind, Except.bind, hfirewall, Except.ok.injEq, Prod.mk.injEq, IpConfig.ofProperties, hget]
  simp [pairs, lookup?_cons, lookup?_append, IpConfig.pairs, commonPairs]

theorem ofContainerText_toContainerText {nic : Nic} (h : nic.Writable) (slot : Nat) {ip : IpConfig}
    (hip : ip.Writable) :
    ∃ rate, sameRate nic.rate rate = true ∧ ofContainerText (nic.toContainerText slot (some ip)) =
      .ok ({ nic with enabled := true, model := containerModel, rate := rate }, ip) := by
  obtain ⟨rate, hsame, hrate⟩ := exists_rate h.rate
  exact ⟨rate, hsame, ofContainerText_toContainerText_of_rate h.bridge h.mac hrate slot hip⟩

theorem canonical_of_optionalValue {p : PropertyString} {why : Malformed} {key : String}
    {rate : Option Binary64} (h : optionalValue p Binary64.ofText? why key = .ok rate) :
    ∀ x ∈ rate, x.Canonical := by
  rw [optionalValue] at h
  split at h
  · cases h
    simp
  · obtain ⟨x, hread, rfl⟩ := Except.map_eq_ok_iff.1 h
    simpa using Binary64.canonical_of_ofText? (valueOf_eq_ok_iff.1 hread)

theorem wasRead_of_ofContainerText {text : String} {nic : Nic} {ip : IpConfig}
    (h : ofContainerText text = .ok (nic, ip)) : nic.WasRead ∧ ip.Writable := by
  simp only [ofContainerText] at h
  split at h
  · cases h
  · simp only [Except.bind_eq_ok_iff] at h
    obtain ⟨vlan, -, rate, hrate, mtu, -, h⟩ := h
    cases h
    have hmodel : IsValue (((PropertyString.ofText text).get? "type").getD containerModel) := by
      cases hget : (PropertyString.ofText text).get? "type" with
      | none => decide
      | some model => exact isValue_of_get? hget
    exact ⟨⟨rfl, hmodel, fun s hs => isValue_of_get? hs, fun s hs => isValue_of_get? hs,
      canonical_of_optionalValue hrate⟩, IpConfig.writable_ofText text⟩

end Nic

end Steward
