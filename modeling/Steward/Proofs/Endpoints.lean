/-
A path of the web interface names one instance and one endpoint of it (`instancePath_unique`). Node names are
any texts, but all that could end a segment of a path is escaped in them; kinds and numbers are told apart by
what they are written as, and what is left of the path is the endpoint. Whatever a call on an instance sends
goes to its endpoint, but for questions after a task or a new number (`sends_endpoint`).
-/
import Mathlib
import Steward.Proofs.Percent
import Steward.Proofs.Text
import Steward.Proofs.WebRequests

namespace Steward

namespace Rest

/-! ## Segments -/

/-- The characters that end a segment, or all segments. -/
def isDelimiter (c : Char) : Bool := ['/', '?', '#'].contains c

theorem isDelimiter_of_isAlphanum {c : Char} (h : c.isAlphanum = true) : isDelimiter c = false := by
  by_contra hc
  have hmark : c = '/' ∨ c = '?' ∨ c = '#' := by simpa [isDelimiter, or_iff_not_imp_left] using hc
  rcases hmark with rfl | rfl | rfl <;> exact absurd h (by decide)

theorem any_isDelimiter_segment (s : String) : (segment s).toList.any isDelimiter = false := by
  rw [List.any_eq_false]
  intro c hc
  rw [Bool.not_eq_true]
  rcases Text.mem_percentEncode hc with h | h | rfl
  · exact isDelimiter_of_isAlphanum h
  · simp only [List.mem_cons, List.not_mem_nil, or_false] at h
    rcases h with rfl | rfl | rfl <;> decide
  · decide

theorem segment_inj {s t : String} : segment s = segment t ↔ s = t := Text.percentEncode_inj (by decide)

theorem collection_inj {k l : Kind} : k.collection = l.collection ↔ k = l := by
  cases k <;> cases l <;> decide

/-! ## Paths -/

/-- What a path says before the endpoint. -/
def leading (id : Identity) : List String :=
  ["", "nodes", segment id.node, id.kind.collection, Text.decimal id.id.toNat]

theorem leading_inj {a b : Identity} : leading a = leading b ↔ a = b := by
  refine ⟨fun h => ?_, fun h => h ▸ rfl⟩
  obtain ⟨node, id, kind⟩ := a
  simp only [leading, List.cons.injEq, segment_inj, collection_inj, Text.decimal_inj, UInt32.toNat_inj,
    true_and, and_true] at h
  obtain ⟨rfl, rfl, rfl⟩ := h
  rfl

theorem any_isDelimiter_leading (id : Identity) :
    ∀ piece ∈ leading id, piece.toList.any isDelimiter = false := by
  have hdecimal : (Text.decimal id.id.toNat).toList.any isDelimiter = false := by
    rw [List.any_eq_false]
    intro c hc
    have hdigit : c.isDigit = true := Text.isDigit_of_mem_decimal hc
    rw [Bool.not_eq_true]
    exact isDelimiter_of_isAlphanum (by simp [Char.isAlphanum, hdigit])
  simp only [leading, List.forall_mem_cons]
  refine ⟨rfl, by decide, any_isDelimiter_segment id.node, ?_, hdecimal, by simp⟩
  cases id.kind <;> decide

theorem isDelimiter_of_mem_leading {id : Identity} {piece : String} (hp : piece ∈ leading id) {c : Char}
    (h : c ∈ piece.toList) : isDelimiter c = false :=
  Bool.eq_false_of_not_eq_true (List.any_eq_false.1 (any_isDelimiter_leading id piece hp) c h)

theorem instancePath_eq (id : Identity) (tail : String) :
    instancePath id tail = Text.join "/" (leading id ++ [tail]) := by
  refine String.toList_inj.1 ?_
  simp [instancePath, collectionPath, leading, Text.join, String.toList_append]

/-- A path is cut into what it says before the endpoint and the pieces of the endpoint. -/
theorem pieces_instancePath (id : Identity) (tail : String) :
    Text.pieces (· == '/') (instancePath id tail) = leading id ++ Text.pieces (· == '/') tail := by
  have hslash : ∀ piece ∈ leading id, ∀ c ∈ piece.toList, (c == '/') = false := by
    intro piece hp c hc
    have hd := isDelimiter_of_mem_leading hp hc
    rw [← Bool.not_eq_true, beq_iff_eq]
    rintro rfl
    exact absurd hd (by decide)
  rw [instancePath_eq, Text.pieces, Text.splitWhere_join_concat (c := '/') (by decide) (by decide) tail hslash,
    List.map_append, List.map_map, Text.pieces]
  simp [Function.comp_def, String.ofList_toList]

theorem instancePath_inj {a b : Identity} {s t : String} :
    instancePath a s = instancePath b t ↔ a = b ∧ s = t := by
  refine ⟨fun h => ?_, fun ⟨ha, hs⟩ => ha ▸ hs ▸ rfl⟩
  have hpieces := congrArg (Text.pieces (· == '/')) h
  rw [pieces_instancePath, pieces_instancePath] at hpieces
  obtain rfl := leading_inj.1 (List.append_inj_left hpieces rfl)
  refine ⟨rfl, ?_⟩
  have hends (u : String) : (instancePath a u).toList = (instancePath a "").toList ++ u.toList := by
    simp [instancePath, String.toList_append]
  have htext := congrArg String.toList h
  rw [hends s, hends t] at htext
  exact String.toList_inj.1 (List.append_cancel_left htext)

/-- A query or a fragment begins in a path only where its endpoint begins one. -/
theorem mem_instancePath_iff {id : Identity} {tail : String} {c : Char} (hc : isDelimiter c = true)
    (hne : c ≠ '/') : c ∈ (instancePath id tail).toList ↔ c ∈ tail.toList := by
  rw [instancePath_eq]
  constructor
  · intro h
    rcases Text.mem_join h with h | ⟨piece, hp, h⟩
    · exact absurd (by simpa using h) hne
    · rcases List.mem_append.1 hp with hp | hp
      · rw [isDelimiter_of_mem_leading hp h] at hc
        cases hc
      · exact List.mem_singleton.1 hp ▸ h
  · intro h
    rw [← instancePath_eq, instancePath, String.toList_append]
    exact List.mem_append_right _ h

end Rest

/-! ## Calls -/

/-- The instance that a call is about and the endpoint that it uses; none for a new instance. -/
def Call.endpoint? : Call → Option (Identity × String)
  | .create .. => none
  | .clone source .. => some (source, "clone")
  | .configuration id => some (id, "config")
  | .status id => some (id, "status/current")
  | .update id _ => some (id, "config")
  | .moveDisk id _ => some (id, Rest.Client.moveTail id.kind)
  | .resizeDisk id _ => some (id, "resize")
  | .migrate id _ => some (id, "migrate")
  | .start id _ => some (id, "status/start")
  | .shutdown id .. => some (id, "status/shutdown")
  | .stop id _ => some (id, "status/stop")
  | .reboot id _ => some (id, "status/reboot")

/-- The endpoints hold no query and no fragment. -/
theorem Call.endpoint?_plain {call : Call} {id : Identity} {tail : String}
    (h : call.endpoint? = some (id, tail)) : '?' ∉ tail.toList ∧ '#' ∉ tail.toList := by
  cases call <;> cases h
  case moveDisk request => cases id.kind <;> decide
  all_goals decide

namespace Rest.Client

variable (client : Client)

/-- The requests of calls on an instance: those to an endpoint, and questions after a task or a number. -/
inductive Addressed (id : Identity) (tail : String) : Sent → Prop
  | endpoint (method : Method) (form : Option Form) :
      Addressed id tail (client.sent method (instancePath id tail) form)
  | task (task : String) : Addressed id tail (client.sent .get (taskPath id.node task) none)
  | nextId : Addressed id tail (client.sent .get nextIdPath none)

variable {client} {id : Identity} {tail : String} {trips : List Trip}

theorem Mutation.addressed {method : Method} {form : Form} {result? : Option (Except RestError Unit)}
    (h : client.Mutation method id.node (instancePath id tail) form result? trips) :
    ∀ trip ∈ trips, client.Addressed id tail trip.request := by
  cases h with
  | refused | done => exact List.forall_mem_singleton.2 (.endpoint _ _)
  | task _ hquestions =>
    refine List.forall_mem_cons.2 ⟨.endpoint _ _, fun trip htrip => ?_⟩
    rw [hquestions.request trip htrip]
    exact .task _

theorem Reading.addressed {α : Type} {budget : Nat} {interpret : Json → Except RestError α}
    {result? : Option (Except RestError α)}
    (h : client.Reading (instancePath id tail) budget interpret result? trips) :
    ∀ trip ∈ trips, client.Addressed id tail trip.request := fun trip htrip => by
  rw [h.request trip htrip]
  exact .endpoint _ _

theorem Copied.addressed {form : Form} {budget : Nat} {result? : Option (Except RestError Unit)}
    (h : client.Copied id.node (instancePath id tail) form budget result? trips) :
    ∀ trip ∈ trips, client.Addressed id tail trip.request := by
  obtain ⟨attempts, rfl, hcopying⟩ := h
  intro trip htrip
  obtain ⟨attempt, hattempt, htrip⟩ := List.mem_flatMap.1 htrip
  exact (hcopying.mutation attempt hattempt).addressed trip htrip

theorem Lookup.addressed {wanted : Option UInt32} {looked : Option (Except RestError UInt32)}
    (h : client.Lookup wanted looked trips) : ∀ trip ∈ trips, client.Addressed id tail trip.request := by
  cases wanted with
  | some n => rw [h.2]; simp
  | none =>
    intro trip htrip
    rw [Reading.request h trip htrip]
    exact .nextId

theorem Numbered.addressed {wanted : Option UInt32}
    {rest : UInt32 → Option (Except RestError Unit) → List Trip → Prop}
    {result? : Option (Except RestError UInt32)} (h : client.Numbered wanted rest result? trips)
    (hrest : ∀ n outcome changes, rest n outcome changes →
      ∀ trip ∈ changes, client.Addressed id tail trip.request) :
    ∀ trip ∈ trips, client.Addressed id tail trip.request := by
  obtain ⟨looked, lookup, changes, rfl, hlookup, -, hdone⟩ := h
  refine List.forall_mem_append.2 ⟨hlookup.addressed, ?_⟩
  rcases looked with _ | (e | n)
  · rw [hdone.1]; simp
  · rw [hdone.1]; simp
  · obtain ⟨outcome, hchanges, -⟩ := hdone
    exact hrest n outcome changes hchanges

/-- A call on an instance sends nothing to any other instance. -/
theorem sends_endpoint {call : Call} (h : call.endpoint? = some (id, tail)) :
    Sends (client.answer call) fun _ trips => ∀ trip ∈ trips, client.Addressed id tail trip.request := by
  have hmutate (method : Method) (form : Form) : Sends (client.onInstance method id tail form) fun _ trips =>
      ∀ trip ∈ trips, client.Addressed id tail trip.request :=
    (client.sends_mutate method id.node _ form).imp fun _ _ hm => hm.addressed
  cases call with
  | create => cases h
  | clone source request attempts =>
    cases h
    exact (client.sends_clone id request attempts).imp fun _ _ hc =>
      hc.addressed fun _ _ _ hcopied => hcopied.addressed
  | configuration =>
    cases h
    exact (client.sends_configuration id).imp fun _ _ hr => hr.addressed
  | status =>
    cases h
    exact (client.sends_status id).imp fun _ _ hr => hr.addressed
  | update other request =>
    cases h
    change Sends (if request.isEmpty then pure () else client.onInstance .put id "config" request.form) _
    split
    · exact .pure (by simp)
    · exact hmutate _ _
  | moveDisk | resizeDisk | migrate | start | shutdown | stop | reboot =>
    cases h
    exact hmutate _ _

end Rest.Client

/-- Two paths are the same only for the same endpoint of the same instance. A path has its five leading
segments, the name of the node being one of them whatever it holds, and then those of the endpoint; no query
and no fragment begins in the path of a call, and all that the call sends goes there, but for questions after a
task on the same node or a new number. -/
theorem Rest.instancePath_unique :
    (∀ (a b : Identity) (s t : String), instancePath a s = instancePath b t ↔ a = b ∧ s = t) ∧
    (∀ (id : Identity) (tail : String),
      Text.pieces (· == '/') (instancePath id tail) = leading id ++ Text.pieces (· == '/') tail) ∧
    ∀ (client : Client) (call : Call) (id : Identity) (tail : String), call.endpoint? = some (id, tail) →
      '?' ∉ (instancePath id tail).toList ∧ '#' ∉ (instancePath id tail).toList ∧
        Sends (client.answer call) fun _ trips => ∀ trip ∈ trips, client.Addressed id tail trip.request := by
  refine ⟨fun _ _ _ _ => instancePath_inj, pieces_instancePath, fun client call id tail h => ?_⟩
  obtain ⟨hquery, hfragment⟩ := Call.endpoint?_plain h
  refine ⟨?_, ?_, Client.sends_endpoint h⟩
  · rwa [mem_instancePath_iff (by decide) (by decide)]
  · rwa [mem_instancePath_iff (by decide) (by decide)]

/-- A call on an instance of a node that is named like a path. -/
theorem Rest.instancePath_unique_oddNode :
    (Call.stop ⟨"pve/1?a=%2F#b", 100, .vm⟩ 0).endpoint? =
        some (⟨"pve/1?a=%2F#b", 100, .vm⟩, "status/stop") ∧
      instancePath ⟨"pve/1?a=%2F#b", 100, .vm⟩ "status/stop" =
        "/nodes/pve%2F1%3Fa%3D%252F%23b/qemu/100/status/stop" ∧
      '?' ∉ (instancePath ⟨"pve/1?a=%2F#b", 100, .vm⟩ "status/stop").toList :=
  ⟨rfl, by decide +kernel,
    (instancePath_unique.2.2 ⟨"", "", {}, 0⟩ (.stop ⟨"pve/1?a=%2F#b", 100, .vm⟩ 0) _ _ rfl).1⟩

end Steward
