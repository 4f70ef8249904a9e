/-
Keys for logging in are sent percent-encoded and come back that way, on top of the encoding of forms. Nothing of
it is seen from inside: to send a request and to look at what was stored is to carry out the request
(`decodeParams_applyTo_encoded`). So keys that were joined, encoded, stored, decoded and cut into lines are the
keys that were declared, and the next plan leaves them alone.
-/
import Mathlib
import Steward.Proofs.Batching
import Steward.Proofs.CreateRequest
import Steward.Proofs.DrivePlacement
import Steward.Proofs.Percent
import Steward.Rest.Form

namespace Steward

namespace Rest

/-! ## Forms and answers -/

theorem percentDecode_encodeKeys (s : String) : Text.percentDecode (encodeKeys s) = s :=
  Text.percentDecode_percentEncode (by decide) s

theorem lookup?_encodeParams (params : Dict String) (key : String) :
    lookup? (encodeParams params) key =
      (params.get? key).map fun value => if key = keysParam then encodeKeys value else value := by
  rw [encodeParams, Dict.get?]
  induction params.entries with
  | nil => rfl
  | cons entry entries ih =>
    obtain ⟨name, value⟩ := entry
    rw [List.map_cons, lookup?_cons, lookup?_cons, ih]
    by_cases hname : name = key
    · rw [if_pos hname, if_pos hname, hname, Option.map_some]
    · rw [if_neg hname, if_neg hname]

theorem nodup_encodeParams (params : Dict String) : ((encodeParams params).map (·.1)).Nodup := by
  have hkeys : (encodeParams params).map (·.1) = params.keys := by
    rw [encodeParams, List.map_map]
    rfl
  exact hkeys ▸ params.nodup_keys

theorem get?_ofList_encodeParams (params : Dict String) (key : String) :
    (Dict.ofList (encodeParams params)).get? key =
      (params.get? key).map fun value => if key = keysParam then encodeKeys value else value := by
  rw [Dict.get?_ofList_of_nodup (nodup_encodeParams params), lookup?_encodeParams]

/-- A value under the name of the keys, in plain text. -/
def plainKeys : Json → Json
  | .string keys => .string (Text.percentDecode keys)
  | value => value

theorem get?_decodeParams (remote : Remote) (key : String) :
    Dict.get? (decodeParams remote) key =
      if key = keysParam then (Dict.get? remote key).map plainKeys else Dict.get? remote key := by
  rw [decodeParams]
  by_cases hkey : key = keysParam
  · subst hkey
    rw [if_pos rfl]
    cases hvalue : Dict.get? remote keysParam with
    | none => exact hvalue
    | some value =>
      cases value with
      | string keys => exact (Dict.get?_insert ..).trans (if_pos rfl)
      | _ => exact hvalue
  · rw [if_neg hkey]
    split
    · rw [Dict.get?_insert, if_neg (Ne.symm hkey)]
    · rfl

/-- Keys that come back as they were sent are read as they were. -/
theorem get?_decodeParams_of_sent {params : Dict String} {remote : Remote} {keys sent : String}
    (hparams : params.get? keysParam = some keys) (hsent : (keysParam, sent) ∈ encodeParams params)
    (hremote : Dict.get? remote keysParam = some (.string sent)) :
    Dict.get? (decodeParams remote) keysParam = some (.string keys) := by
  rw [← Dict.get?_ofList_eq_some_iff (nodup_encodeParams params), get?_ofList_encodeParams, hparams,
    Option.map_some, if_pos rfl] at hsent
  rw [get?_decodeParams, if_pos rfl, hremote, Option.map_some, ← Option.some.inj hsent, plainKeys,
    percentDecode_encodeKeys]

end Rest

open Rest (keysParam encodeParams decodeParams)

namespace UpdateRequest

/-- A request as its form is taken: with the keys as they are sent. -/
def encoded (request : UpdateRequest) : UpdateRequest :=
  { request with set := .ofList (encodeParams request.set) }

/-- Whoever sends a request and reads back what was stored sees the request carried out. -/
theorem decodeParams_applyTo_encoded (request : UpdateRequest) (remote : Remote) :
    decodeParams (request.encoded.applyTo remote) = request.applyTo (decodeParams remote) := by
  refine Dict.ext fun key => ?_
  rw [Rest.get?_decodeParams, get?_applyTo, get?_applyTo, Rest.get?_decodeParams, encoded,
    Rest.get?_ofList_encodeParams]
  by_cases hkey : key = keysParam
  · simp only [if_pos hkey]
    cases request.set.get? key with
    | some value => simp [Rest.plainKeys, Rest.percentDecode_encodeKeys]
    | none => by_cases hdelete : key ∈ request.delete <;> simp [hdelete]
  · simp only [if_neg hkey, Option.map_id']

end UpdateRequest

/-! ## Looking again -/

namespace Remote

variable {remote next : Remote} {identity : Identity} {status : Status} {before : Observed}

/-- The drive that a machine is observed with is found in a slot. -/
theorem exists_drive {observed : Observed} (ho : remote.observe identity status = .ok observed)
    (hi : identity.kind = .vm) (hdrive : observed.config.cloudInit.isSome = true) :
    ∃ slot ∈ driveSlots, observed.config.cloudInit = some (remote.cloudInitAt slot (remote.storeAt slot)) := by
  rw [cloudInit_of_observe ho hi, Option.isSome_map] at hdrive
  obtain ⟨slot, hfind⟩ := Option.isSome_iff_exists.1 hdrive
  exact ⟨slot, List.mem_of_find?_eq_some hfind, by rw [cloudInit_of_observe ho hi, hfind, Option.map_some]⟩

/-- A machine with a generated drive is observed with it as long as drives and network devices are let alone. -/
theorem exists_observe_with_drive (ho : remote.observe identity status = .ok before) (hi : identity.kind = .vm)
    (hdrive : before.config.cloudInit.isSome = true)
    (hslots : ∀ slot ∈ driveKeys .vm ++ Desired.nicKeys, next.get? slot = remote.get? slot) :
    ∃ after, next.observe identity status = .ok after ∧ after.config.cloudInit.isSome = true := by
  obtain ⟨hdrives, hnics⟩ := List.forall_mem_append.1 hslots
  have hreadable := (exists_observe_iff.1 ⟨before, ho⟩).2
  obtain ⟨after, ha⟩ := exists_observe ho (hi ▸ hdrives) fun slot hslot => by
    rw [hnics _ (List.mem_map_of_mem (List.mem_range.2 hslot))]
    exact hreadable slot hslot
  have hsame : driveSlots.find? (next.generated identity.id) = driveSlots.find? (remote.generated identity.id) :=
    List.find?_congr fun slot hslot => generated_congr (hdrives slot (List.mem_append_left _ hslot))
  rw [cloudInit_of_observe ho hi, ← hsame, Option.isSome_map] at hdrive
  exact ⟨after, ha, by rw [cloudInit_of_observe ha hi, Option.isSome_map, hdrive]⟩

end Remote

namespace Plan

variable {want : CloudInit} {found : Option CloudInit} {occupied : NameSet} {account : Account} {i : Intent}

/-- Only the keys of the account have steps for the parameter of the keys. -/
theorem mem_keys_of_mem_updates (hi : i ∈ cloudInitUpdates want found) (hp : i.op.param? = some keysParam)
    (ha : want.account = some account) :
    i ∈ setOrDelete "cloud_init.user_account.keys" keysParam (joined? "\n" account.keys)
      (joined? "\n" ((found.bind (·.account)).getD ⟨none, none, []⟩).keys) := by
  have hmem {steps : List Intent} (h : i ∈ steps) : keysParam ∈ touched steps := mem_touched.2 ⟨i, h, hp⟩
  rw [cloudInitUpdates, ha, Option.map_some, Option.getD_some, accountIntents] at hi
  simp only [List.mem_append] at hi
  rcases hi with (((hname | hpassword) | hkeys) | hresolver) | haddress
  · exact absurd ((touched_setOrDelete _ _ _ _).subset (hmem hname)) (by decide)
  · split at hpassword
    · cases hpassword
    · exact absurd ((touched_setOrDelete _ _ _ _).subset (hmem hpassword)) (by decide)
  · exact hkeys
  · cases hr : want.resolver with
    | none =>
      rw [hr] at hresolver
      cases hresolver
    | some resolver =>
      rw [hr] at hresolver
      exact absurd ((touched_resolverIntents _ _).subset (hmem hresolver)) (by decide)
  · have hslot := (touched_ipConfigIntents _ _).subset (hmem haddress)
    obtain ⟨n, -, hn⟩ := List.mem_map.1 hslot
    exact absurd (take_ipconfigSlot n) (by rw [hn]; decide)

/-- The update of the keys that is planned writes all of them, one a line. -/
theorem joined?_of_mem_updates {field value : String} (hi : i ∈ cloudInitUpdates want found)
    (hop : i.op = .update field keysParam value) (ha : want.account = some account) :
    joined? "\n" account.keys = some value := by
  have hkeys := mem_keys_of_mem_updates hi (by rw [hop]; rfl) ha
  unfold setOrDelete at hkeys
  split at hkeys
  · cases hkeys
  · cases hjoined : joined? "\n" account.keys with
    | none =>
      rw [hjoined] at hkeys
      rw [List.mem_singleton.1 hkeys] at hop
      cases hop
    | some text =>
      rw [hjoined] at hkeys
      rw [List.mem_singleton.1 hkeys] at hop
      injection hop with _ _ hvalue
      rw [hvalue]

/-- Where all the keys are found, no step for them is planned. -/
theorem param?_ne_keys_of_text? {remote : Remote} (ha : want.account = some account)
    (hkeys : ∀ key ∈ account.keys, IsLine key ∧ Text.trim key.toList = key.toList)
    (htext : remote.text? keysParam = joined? "\n" account.keys) (slot store : String) :
    ∀ i ∈ cloudInitUpdates want (some (remote.cloudInitAt slot store)), i.op.param? ≠ some keysParam := by
  intro i hi hp
  have hmem := mem_keys_of_mem_updates hi hp ha
  have hfound : ((remote.account).getD ⟨none, none, []⟩).keys = account.keys := by
    rw [getD_account]
    change ((remote.text? keysParam).map Text.lines).getD [] = account.keys
    rw [htext, lines_joined? (fun s hs => (hkeys s hs).1) fun s hs => (hkeys s hs).2]
  rw [Option.bind_some, Remote.cloudInitAt, hfound, setOrDelete_self] at hmem
  cases hmem

/-- With a drive that is found in another place, a plan whose settings leave a parameter alone touches it exactly
if the drive is wanted there. -/
theorem steps_spare_iff {init : CloudInit} {slot param : String} (hslot : init.interface = some slot)
    (hne : slot ≠ param) (h : ∀ i ∈ cloudInitUpdates want (some init), i.op.param? ≠ some param) :
    (∀ i ∈ (planCloudInit (some want) (some init) occupied).steps, i.op.param? ≠ some param) ↔
      want.interface ≠ some param := by
  have htarget : targetSlot want (some init) = param ↔ want.interface = some param := by
    rw [targetSlot, Option.bind_some, hslot]
    cases want.interface <;> simp [hne]
  have hattach : attachSlot? (some want) (some init) = some param ↔ want.interface = some param := by
    rw [attachSlot?_eq_some_iff, ← htarget]
    constructor
    · rintro ⟨w, hw, -, rfl⟩
      rw [Option.some.inj hw]
    · rintro rfl
      exact ⟨want, rfl, by simp [needsRelocation, hslot, hne], rfl⟩
  have hdetach : detachSlot? (some want) (some init) ≠ some param := by
    intro hdetach
    obtain ⟨-, -, hinit⟩ := Option.bind_eq_some_iff.1 hdetach
    exact hne (Option.some.inj (hslot.symm.trans hinit))
  constructor
  · intro hspared hwant
    obtain ⟨i, hi⟩ := attach_of_attachSlot? occupied (hattach.2 hwant)
    refine hspared i ?_ ((mem_attach hi).2.trans (hattach.2 hwant))
    simp [CloudInitPlan.steps, hi]
  · intro hwant i hi hp
    rw [CloudInitPlan.steps, List.mem_append, List.mem_append, Option.mem_toList] at hi
    rcases hi with (hi | hi) | hi
    · obtain ⟨left, rfl, hleft | hleft⟩ := mem_detach hi
      · exact hwant (hattach.1 (hleft.trans hp))
      · exact hdetach (hleft.trans hp)
    · exact hwant (hattach.1 ((mem_attach hi).2.symm.trans hp))
    · exact h i hi hp

end Plan

/-- Keys make the full round trip. Whatever text was sent as the keys is the text that is read when the value
comes back. Where the keys that a plan writes were sent and come back from a machine with its drive, the next plan
has no update of them, and no step at all for their parameter: only a drive that is wanted in a slot of that name,
which no drive has, could be one. And a machine with a drive is still observed with it after any request that lets
drives and network devices alone. -/
theorem keys_round_trip :
    (∀ (params : Dict String) (remote : Remote) (keys sent : String), params.get? keysParam = some keys →
      (keysParam, sent) ∈ encodeParams params → remote.get? keysParam = some (.string sent) →
      (decodeParams remote).get? keysParam = some (.string keys)) ∧
    (∀ (want : CloudInit) (account : Account), want.account = some account →
      (∀ key ∈ account.keys, IsLine key ∧ Text.trim key.toList = key.toList) →
      ∀ (found : Option CloudInit) (occupied : NameSet) (i : Intent) (field keys : String),
      i ∈ (Plan.planCloudInit (some want) found occupied).updates → i.op = .update field keysParam keys →
      ∀ (params : Dict String) (remote : Remote) (sent : String), params.get? keysParam = some keys →
      (keysParam, sent) ∈ encodeParams params → remote.get? keysParam = some (.string sent) →
      ∀ (identity : Identity) (status : Status) (observed : Observed), identity.kind = .vm →
      (decodeParams remote).observe identity status = .ok observed → observed.config.cloudInit.isSome = true →
      (∀ j ∈ (Plan.planCloudInit (some want) observed.config.cloudInit observed.occupied).updates,
        j.op.param? ≠ some keysParam) ∧
      ((∀ j ∈ (Plan.planCloudInit (some want) observed.config.cloudInit observed.occupied).steps,
        j.op.param? ≠ some keysParam) ↔ want.interface ≠ some keysParam)) ∧
    ∀ (request : UpdateRequest) (remote : Remote) (identity : Identity) (status : Status) (before : Observed),
      (∀ slot ∈ Remote.driveKeys .vm ++ Desired.nicKeys, slot ∉ request.set.keys ∧ slot ∉ request.delete) →
      identity.kind = .vm → (decodeParams remote).observe identity status = .ok before →
      before.config.cloudInit.isSome = true →
      ∃ after, (decodeParams (request.encoded.applyTo remote)).observe identity status = .ok after ∧
        after.config.cloudInit.isSome = true := by
  refine ⟨fun _ _ _ _ => Rest.get?_decodeParams_of_sent, ?_, ?_⟩
  · intro want account ha hkeys found occupied i field keys hi hop params remote sent hparams hsent hremote
      identity status observed hvm ho hdrive
    have htext : (decodeParams remote).text? keysParam = Plan.joined? "\n" account.keys := by
      rw [Plan.joined?_of_mem_updates hi hop ha, Remote.text?,
        Rest.get?_decodeParams_of_sent hparams hsent hremote]
      rfl
    -- the drive is found in a slot of drives, so it has to leave none of that name
    obtain ⟨slot, hslot, hinit⟩ := Remote.exists_drive ho hvm hdrive
    rw [hinit]
    have hspared := Plan.param?_ne_keys_of_text? ha hkeys htext slot ((decodeParams remote).storeAt slot)
    refine ⟨hspared, Plan.steps_spare_iff rfl ?_ hspared⟩
    rintro rfl
    exact absurd hslot (by decide +kernel)
  · intro request remote identity status before hslots hvm ho hdrive
    rw [UpdateRequest.decodeParams_applyTo_encoded]
    refine Remote.exists_observe_with_drive ho hvm hdrive fun slot hslot => ?_
    obtain ⟨hset, hdelete⟩ := hslots slot hslot
    rw [Dict.mem_keys_iff, Option.not_isSome_iff_eq_none] at hset
    rw [UpdateRequest.get?_applyTo, hset, if_neg hdelete]
    rfl

/-- An account with two keys, with a letter beyond ASCII in them and what looks like an escape. -/
def twoKeys : Account := ⟨some "root", none, ["ssh-ed25519 AAAA%41 ä", "ecdsa €uro"]⟩

/-- The keys as they are sent. -/
def twoKeysSent : String := "ssh-ed25519%20AAAA%2541%20%C3%A4%0Aecdsa%20%E2%82%ACuro"

theorem keys_round_trip_twoKeys :
    let want : CloudInit := ⟨"local", none, none, [], some twoKeys⟩
    let request : UpdateRequest := ⟨.ofList [("ciuser", "root"), (keysParam, Text.join "\n" twoKeys.keys)], []⟩
    let remote : Remote := .ofList
      [("ide2", .string "local:vm-100-cloudinit,media=cdrom"), (keysParam, .string "old%20key")]
    let machine : Identity := ⟨"pve1", 100, .vm⟩
    (keysParam, twoKeysSent) ∈ encodeParams request.set ∧
    (decodeParams (request.encoded.applyTo remote)).get? keysParam =
      some (.string (Text.join "\n" twoKeys.keys)) ∧
    ∃ before after, (decodeParams remote).observe machine ⟨.stopped, none⟩ = .ok before ∧
      Intent.update "cloud_init.user_account.keys" keysParam (Text.join "\n" twoKeys.keys) .drift ∈
        (Plan.planCloudInit (some want) before.config.cloudInit before.occupied).updates ∧
      (decodeParams (request.encoded.applyTo remote)).observe machine ⟨.stopped, none⟩ = .ok after ∧
      after.config.cloudInit.isSome = true ∧
      ∀ j ∈ (Plan.planCloudInit (some want) after.config.cloudInit after.occupied).steps,
        j.op.param? ≠ some keysParam := by
  intro want request remote machine
  obtain ⟨htransport, hplan, hobserve⟩ := keys_round_trip
  have hset : request.set.get? keysParam = some (Text.join "\n" twoKeys.keys) := by decide +kernel
  have hsent : (keysParam, twoKeysSent) ∈ encodeParams request.set := by decide +kernel
  have hstored : (request.encoded.applyTo remote).get? keysParam = some (.string twoKeysSent) := by
    rw [UpdateRequest.get?_applyTo, UpdateRequest.encoded,
      (Dict.get?_ofList_eq_some_iff (Rest.nodup_encodeParams request.set)).2 hsent]
    rfl
  obtain ⟨before, ho, hfound, hupdate⟩ : ∃ before,
      (decodeParams remote).observe machine ⟨.stopped, none⟩ = .ok before ∧
      before.config.cloudInit.isSome = true ∧
      Intent.update "cloud_init.user_account.keys" keysParam (Text.join "\n" twoKeys.keys) .drift ∈
        (Plan.planCloudInit (some want) before.config.cloudInit before.occupied).updates :=
    ⟨_, Except.eq_ok_get (by decide +kernel), by decide +kernel, by decide +kernel⟩
  obtain ⟨after, hafter, hdrive⟩ :=
    hobserve request remote machine ⟨.stopped, none⟩ before (by decide +kernel) rfl ho hfound
  obtain ⟨-, hspared⟩ := hplan want twoKeys rfl (by decide +kernel) _ _ _ _ _ hupdate rfl request.set
    (request.encoded.applyTo remote) twoKeysSent hset hsent hstored machine ⟨.stopped, none⟩ after rfl hafter hdrive
  exact ⟨hsent, htransport _ _ _ _ hset hsent hstored, before, after, ho, hupdate, hafter, hdrive,
    hspared.2 (by decide +kernel)⟩

end Steward
