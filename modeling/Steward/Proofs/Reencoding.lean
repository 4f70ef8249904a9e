/-
Reading is settled by one pass: what any text is read as prints as a text that is read as the same again. No
well-formedness of the text is asked for. Keys that are unknown or come twice, numbers with a plus sign, empty
values and blanks around separators disappear in the first reading, which leaves only what can be printed.
-/
import Mathlib
import Steward.Proofs.Nic

namespace Steward

open PropertyString

theorem Tags.isTag_of_mem_ofText {s tag : String} (h : tag ∈ (ofText s).keys) : IsTag tag := by
  obtain ⟨hne, htrim, hfree⟩ := Text.of_mem_fields (NameSet.mem_keys_ofList.1 h)
  refine ⟨hne, htrim, fun c hc => ?_⟩
  simpa [and_assoc] using hfree c hc

theorem Agent.isValue_channel_ofText (s : String) : IsValue (ofText s).channel := by
  simp only [ofText]
  cases hget : (PropertyString.ofText s).get? "type" with
  | none => decide
  | some channel => exact isValue_of_get? hget

namespace Nic

/-- The rate of a device that was read is read again from its text. -/
theorem WasRead.rate_read {nic : Nic} (h : nic.WasRead) :
    nic.rate.map (fun x => Binary64.ofText? x.toText) = nic.rate.map some :=
  Option.map_congr fun x hx => Binary64.ofText?_toText (h.rate x hx)

theorem reread {s : String} {nic : Nic} (h : ofText s = .ok nic) : ofText nic.toText = .ok nic := by
  obtain ⟨hread, hmodel⟩ := wasRead_of_ofText h
  have hwritable : ({ nic with rate := none } : Nic).Writable :=
    ⟨⟨hmodel, hread.model⟩, hread.bridge, hread.mac, by simp [RateSurvives]⟩
  rw [ofText_toText_of_rate hwritable hread.rate_read, ← hread.enabled]

/-- A container's device reads back with the model that containers have, whatever model its text named. -/
theorem reread_container {s : String} {nic : Nic} {ip : IpConfig} (h : ofContainerText s = .ok (nic, ip))
    (slot : Nat) : ofContainerText (nic.toContainerText slot (some ip)) =
      .ok ({ nic with model := containerModel }, ip) := by
  obtain ⟨hread, hip⟩ := wasRead_of_ofContainerText h
  rw [ofContainerText_toContainerText_of_rate hread.bridge hread.mac hread.rate_read slot hip, ← hread.enabled]

end Nic

/-- What any text is read as is printed as a text that is read as the same: tags, start order, agent, addresses,
and the devices of both kinds of instances. Only for a container's device does it take something: that its model
is the one that containers have. -/
theorem rereading_stable (s : String) :
    Tags.ofText (Tags.toText (Tags.ofText s)) = Tags.ofText s ∧
    Startup.ofText (Startup.ofText s).toText = Startup.ofText s ∧
    Agent.ofText (Agent.ofText s).toText = Agent.ofText s ∧
    IpConfig.ofText (IpConfig.ofText s).toText = IpConfig.ofText s ∧
    (∀ nic, Nic.ofText s = .ok nic → Nic.ofText nic.toText = .ok nic) ∧
    ∀ nic ip, Nic.ofContainerText s = .ok (nic, ip) → ∀ slot,
      Nic.ofContainerText (nic.toContainerText slot (some ip)) = .ok (nic, ip) ↔ nic.model = containerModel := by
  refine ⟨Tags.ofText_toText fun _ => Tags.isTag_of_mem_ofText, Startup.ofText_toText _,
    Agent.ofText_toText (Agent.isValue_channel_ofText s), IpConfig.ofText_toText (IpConfig.writable_ofText s),
    fun nic h => Nic.reread h, fun nic ip h slot => ?_⟩
  rw [Nic.reread_container h slot]
  constructor
  · intro hsame
    injection hsame with hsame
    exact (congrArg (fun seen : Nic × IpConfig => seen.1.model) hsame).symm
  · intro hmodel
    rw [← hmodel]

/-- A text that both kinds of instances accept, of which they read different devices: of two numbers the machine
takes the last one and the container the first. -/
theorem rereading_stable_untidy :
    let s := " name=x , virtio=AA ,macaddr=CC,tag=+5, tag=7,late,rate=12.50,mtu=+1500,=v,firewall=ON,bridge= b,ip="
    let rate := Binary64.finite false (25 * 2 ^ 48) 1025
    let machine : Nic := ⟨true, some " b", "virtio", some "CC", some 7, some rate, some 1500, true⟩
    let container : Nic := ⟨true, some " b", "veth", none, some 5, some rate, some 1500, true⟩
    let ip : IpConfig := ⟨some "", none, none, none⟩
    (Nic.ofText s = .ok machine ∧ Nic.ofText machine.toText = .ok machine) ∧
    Nic.ofContainerText s = .ok (container, ip) ∧
      Nic.ofContainerText (container.toContainerText 3 (some ip)) = .ok (container, ip) := by
  intro s rate machine container ip
  have hmachine : Nic.ofText s = .ok machine := by decide +kernel
  have hcontainer : Nic.ofContainerText s = .ok (container, ip) := by decide +kernel
  obtain ⟨-, -, -, -, hnic, hcontainers⟩ := rereading_stable s
  exact ⟨⟨hmachine, hnic machine hmachine⟩, hcontainer, (hcontainers container ip hcontainer 3).2 rfl⟩

end Steward
