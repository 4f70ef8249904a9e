/-
When a wait reads the status. If answers take no time, the readings come at multiples of the interval and the
last one when the time is over, so that there is a bound on their number; the first reading that decides ends the
wait, and without one it ends when the time is over (`waitFor_exact`). A wait that is over at no moment of the
clock panics. However late the answers are, no wait runs out of readings (`waitFor_eq_pollUntil`).
-/
import Mathlib
import Steward.Poll
import Steward.Proofs.Transcript

namespace Steward

variable {σ : Type}

/-! ## Moments -/

namespace Polling

variable (p : Polling)

/-- How long after its start a wait makes a reading, by its number counted from zero. -/
def moment (n : Nat) : Duration := min (n * p.interval) p.timeout

/-- The number of the last reading: the first one for which the time is over. -/
def lastReading : Nat := p.timeout ⌈/⌉ p.interval

variable {p}

theorem lastReading_le_iff (hp : 0 < p.interval) {n : Nat} : p.lastReading ≤ n ↔ p.timeout ≤ n * p.interval := by
  rw [lastReading, ceilDiv_le_iff_le_mul hp, Nat.mul_comm]

theorem moment_zero : p.moment 0 = 0 := by
  rw [moment, Nat.zero_mul, Nat.zero_min]

theorem moment_mono : Monotone p.moment := fun _ _ h => min_le_min_right _ (Nat.mul_le_mul_right _ h)

theorem pause_eq (hp : 0 < p.interval) : p.pause = p.interval := Nat.max_eq_left hp

theorem pause_pos : 0 < p.pause := Nat.lt_of_lt_of_le Nat.one_pos (Nat.le_max_right _ _)

/-- A pause that is over no later than the wait ends at a moment of the clock. -/
theorem alarm_pause {t limit : Nat} (hlimit : limit < Clock.limit) (ht : t < limit) :
    Clock.alarm t (min p.pause (limit - t)) = t + min p.pause (limit - t) := by
  refine Clock.alarm_of_lt (lt_of_le_of_lt ?_ hlimit)
  unfold Duration at *
  omega

/-- The pause after a reading leads to the moment of the next one. -/
theorem moment_succ (n : Nat) : p.moment (n + 1) = p.moment n + min p.interval (p.timeout - p.moment n) := by
  rw [moment, moment, Nat.succ_mul]
  unfold Duration at *
  omega

theorem moment_lastReading (hp : 0 < p.interval) : p.moment p.lastReading = p.timeout :=
  min_eq_right ((lastReading_le_iff hp).1 le_rfl)

theorem timeout_le_moment_iff (hp : 0 < p.interval) {n : Nat} : p.timeout ≤ p.moment n ↔ p.lastReading ≤ n := by
  rw [lastReading_le_iff hp, moment, le_min_iff, and_iff_left le_rfl]

/-- Of two readings one after the other, the last one by a moment and the first one after it. -/
theorem exists_between {n t d : Nat} (ht : t ≤ d) (hd : d < t + p.moment n) :
    ∃ k < n, t + p.moment k ≤ d ∧ d < t + p.moment (k + 1) := by
  induction n with
  | zero => exact absurd (hd.trans_le (by rw [moment_zero, Nat.add_zero])) (Nat.not_lt.2 ht)
  | succ n ih =>
    by_cases hn : t + p.moment n ≤ d
    · exact ⟨n, n.lt_succ_self, hn, hd⟩
    · obtain ⟨k, hk, hbetween⟩ := ih (Nat.lt_of_not_le hn)
      exact ⟨k, Nat.lt_succ_of_lt hk, hbetween⟩

/-- There is always a reading left for the moment at which the time is over. -/
theorem lastReading_lt_maxReads (hp : 0 < p.interval) : p.lastReading < p.maxReads := by
  refine Nat.lt_succ_of_le ((lastReading_le_iff hp).2 ?_)
  rw [pause_eq hp, Nat.mul_comm]
  exact (Nat.lt_mul_div_succ p.timeout hp).le

end Polling

/-- What an answer decides: nothing if it shows another status, or a failure that may pass. -/
def Goal.verdict? (goal : Goal) : Except Failure Status → Option (Except Failure Unit)
  | .ok status => if goal.isReached status then some (.ok ()) else none
  | .error why => if why.isTransient then none else some (.error why)

namespace Goal

variable {goal : Goal} {answer : Except Failure Status}

theorem verdict?_eq_ok :
    goal.verdict? answer = some (.ok ()) ↔ ∃ status, answer = .ok status ∧ goal.isReached status = true := by
  cases answer with
  | ok status => cases h : goal.isReached status <;> simp [verdict?, h]
  | error why => cases h : why.isTransient <;> simp [verdict?, h]

theorem verdict?_eq_error {why : Failure} :
    goal.verdict? answer = some (.error why) ↔ answer = .error why ∧ why.isTransient = false := by
  cases answer with
  | ok status => cases h : goal.isReached status <;> simp [verdict?, h]
  | error other =>
    simp only [verdict?, Except.error.injEq]
    cases h : other.isTransient with
    | true =>
      refine ⟨nofun, ?_⟩
      rintro ⟨rfl, hfatal⟩
      rw [h] at hfatal
      cases hfatal
    | false =>
      simp only [Bool.false_eq_true, if_false, Option.some_inj, Except.error.injEq]
      refine ⟨?_, And.left⟩
      rintro rfl
      exact ⟨rfl, h⟩

end Goal

/-- By a script of answers, the first reading that decides is number `n`, or that is the last one and none does. -/
structure Polling.Final (p : Polling) (goal : Goal) (script : Nat → Except Failure Status) (n : Nat) : Prop where
  le_last : n ≤ p.lastReading
  undecided : ∀ k < n, goal.verdict? (script k) = none
  decides : n < p.lastReading → goal.verdict? (script n) ≠ none

/-- By a script of answers, a wait ends with reading number `n` and with that result. -/
structure Polling.Ends (p : Polling) (id : Identity) (goal : Goal) (script : Nat → Except Failure Status) (n : Nat)
    (result : Except Failure Unit) : Prop extends p.Final goal script n where
  isOk : result = .ok () ↔ ∃ k ≤ p.lastReading,
    (∃ status, script k = .ok status ∧ goal.isReached status = true) ∧
      ∀ j < k, ∀ why, script j = .error why → why.isTransient = true
  failed : ∀ k ≤ p.lastReading, ∀ why, (∀ j < k, goal.verdict? (script j) = none) → script k = .error why →
    why.isTransient = false → result = .error why
  late : (∀ k ≤ p.lastReading, goal.verdict? (script k) = none) →
    result = .error (.notReached id goal p.timeout) ∧ p.moment n = p.timeout

namespace Polling

theorem exists_final (p : Polling) (goal : Goal) (script : Nat → Except Failure Status) :
    ∃ n, p.Final goal script n := by
  have hex : ∃ n, n = p.lastReading ∨ goal.verdict? (script n) ≠ none := ⟨_, .inl rfl⟩
  refine ⟨Nat.find hex, Nat.find_min' hex (.inl rfl), fun k hk => ?_, fun hlt => ?_⟩
  · exact not_not.1 (not_or.1 (Nat.find_min hex hk)).2
  · exact (Nat.find_spec hex).resolve_left hlt.ne

namespace Final

variable {p : Polling} {goal : Goal} {script : Nat → Except Failure Status} {n : Nat}

theorem le_of_decides (hn : p.Final goal script n) {k : Nat} {result : Except Failure Unit}
    (hk : goal.verdict? (script k) = some result) : n ≤ k :=
  Nat.le_of_not_lt fun hlt => Option.some_ne_none _ (hk.symm.trans (hn.undecided k hlt))

/-- The final reading shows the goal if some reading does before any one fails for good. -/
theorem verdict?_eq_ok (hn : p.Final goal script n) :
    goal.verdict? (script n) = some (.ok ()) ↔ ∃ k ≤ p.lastReading,
      (∃ status, script k = .ok status ∧ goal.isReached status = true) ∧
        ∀ j < k, ∀ why, script j = .error why → why.isTransient = true := by
  constructor
  · intro hok
    refine ⟨n, hn.le_last, Goal.verdict?_eq_ok.1 hok, fun j hj why hwhy => ?_⟩
    by_contra hfatal
    exact Nat.not_lt.2 (hn.le_of_decides (Goal.verdict?_eq_error.2 ⟨hwhy, eq_false_of_ne_true hfatal⟩)) hj
  · rintro ⟨k, hk, hshown, hpassing⟩
    have hok := Goal.verdict?_eq_ok.2 hshown
    obtain hlt | rfl := (hn.le_of_decides hok).lt_or_eq
    · obtain ⟨result, hresult⟩ := Option.ne_none_iff_exists'.1 (hn.decides (hlt.trans_le hk))
      cases result with
      | ok a => exact hresult
      | error why =>
        obtain ⟨hwhy, hfatal⟩ := Goal.verdict?_eq_error.1 hresult
        rw [hpassing n hlt why hwhy] at hfatal
        cases hfatal
    · exact hok

/-- The result that the final reading leads to. -/
theorem ends (hn : p.Final goal script n) (hp : 0 < p.interval) (id : Identity) :
    p.Ends id goal script n ((goal.verdict? (script n)).getD (.error (.notReached id goal p.timeout))) where
  toFinal := hn
  isOk := by
    rw [← hn.verdict?_eq_ok]
    cases goal.verdict? (script n) with
    | none => simp
    | some result => rw [Option.getD_some, Option.some_inj]
  failed k hk why hbefore hwhy hfatal := by
    have herror : goal.verdict? (script k) = some (.error why) := Goal.verdict?_eq_error.2 ⟨hwhy, hfatal⟩
    obtain hlt | rfl := (hn.le_of_decides herror).lt_or_eq
    · exact absurd (hbefore n hlt) (hn.decides (hlt.trans_le hk))
    · rw [herror, Option.getD_some]
  late hnone := by
    have hopen := hnone n hn.le_last
    have hlast : n = p.lastReading := by_contra fun hne => hn.decides (lt_of_le_of_ne hn.le_last hne) hopen
    rw [hopen]
    exact ⟨rfl, hlast ▸ moment_lastReading hp⟩

end Final

end Polling

namespace Steps

theorem inTime_some {d t : Nat} : inTime (some d) t ↔ t ≤ d := decide_eq_true_iff

theorem inTime_of_le {deadline : Option Nat} {t u : Nat} (htu : t ≤ u) (hin : inTime deadline u) :
    inTime deadline t := by
  cases deadline with
  | none => rfl
  | some d => exact inTime_some.2 (htu.trans (inTime_some.1 hin))

end Steps

namespace Hypervisor

variable (h : Hypervisor σ)

section Waits

variable {h} {id : Identity} (goal : Goal) {p : Polling} {deadline : Option Nat} {w : World σ} {t : Nat}

theorem waitFor_of_lt (hlimit : t + p.timeout < Clock.limit) :
    h.waitFor id goal p deadline w t = h.pollUntil id goal p (t + p.timeout) p.maxReads deadline w t := by
  rw [waitFor_eq, Clock.after?_eq_some_iff.2 ⟨hlimit, rfl⟩]
  rfl

/-- When the clock cannot tell the end of a wait, it panics before its first reading. -/
theorem waitFor_of_le (hlimit : Clock.limit ≤ t + p.timeout) :
    h.waitFor id goal p deadline w t = .panicked w t := by
  rw [waitFor_eq, Clock.after?_eq_none_iff.2 hlimit]
  rfl

/-- A reading ends no earlier than it begins. -/
theorem le_of_hasReached {result : Except Failure Bool} {v : World σ} {u : Nat}
    (hrun : h.hasReached id goal deadline w t = .done result v u) : t ≤ u := by
  have hcall : ∃ answer, h.call (.status id) deadline w t = .done answer v u := by
    change Steps.bind (h.call (.status id)).attempt _ deadline w t = _ at hrun
    rw [Steps.bind, Steps.attempt] at hrun
    cases hx : h.call (.status id) deadline w t with
    | panicked x y | cut x =>
      rw [hx] at hrun
      cases hrun
    | done answer x y =>
      rw [hx] at hrun
      dsimp only at hrun
      refine ⟨answer, ?_⟩
      cases answer with
      | ok status =>
        cases hrun
        rfl
      | error why =>
        dsimp only at hrun
        split at hrun <;> cases hrun <;> rfl
  obtain ⟨answer, hcall⟩ := hcall
  simp only [call] at hcall
  split at hcall
  · split at hcall <;> cases hcall
    exact Nat.le_add_right t _
  · split at hcall <;> cases hcall
  · cases hcall

/-- Two waits go on alike after a reading that decides nothing if they do from the moment of the next one. -/
theorem pollUntil_succ_congr {limit m n : Nat} (hlimit : limit < Clock.limit)
    (hrest : ∀ v u, t ≤ u → u < limit →
      h.pollUntil id goal p limit m deadline v (u + min p.pause (limit - u)) =
        h.pollUntil id goal p limit n deadline v (u + min p.pause (limit - u))) :
    h.pollUntil id goal p limit (m + 1) deadline w t = h.pollUntil id goal p limit (n + 1) deadline w t := by
  change Steps.bind (h.hasReached id goal) _ deadline w t = Steps.bind (h.hasReached id goal) _ deadline w t
  rw [Steps.bind, Steps.bind]
  cases hrun : h.hasReached id goal deadline w t with
  | panicked v u | cut v => rfl
  | done result v u =>
    rcases result with why | _ | _
    · rfl
    · change (if limit ≤ u then Steps.throw _ else Steps.bind _ _) deadline v u =
        (if limit ≤ u then Steps.throw _ else Steps.bind _ _) deadline v u
      split
      · rfl
      · rename_i hearly
        have hlt := Nat.lt_of_not_le hearly
        simp only [Steps.bind, Steps.sleep, Polling.alarm_pause hlimit hlt]
        cases Steps.inTime deadline (u + min p.pause (limit - u)) with
        | true => exact hrest v u (le_of_hasReached goal hrun) hlt
        | false => rfl
    · rfl

/-- A wait has a reading to spare if the pauses between the other ones lead up to its end, whatever is answered and
however late. -/
theorem pollUntil_spare {limit : Nat} (hlimit : limit < Clock.limit) {reads : Nat}
    (henough : limit ≤ t + reads * p.pause) (more : Nat) :
    h.pollUntil id goal p limit (reads + 1 + more) deadline w t =
      h.pollUntil id goal p limit (reads + 1) deadline w t := by
  induction reads generalizing w t with
  | zero =>
    rw [Nat.zero_mul, Nat.add_zero] at henough
    rw [Nat.zero_add, Nat.add_comm]
    exact pollUntil_succ_congr goal hlimit fun v u hu hearly =>
      absurd (henough.trans hu) (Nat.not_le.2 hearly)
  | succ reads ih =>
    rw [Nat.add_right_comm (reads + 1) 1 more]
    refine pollUntil_succ_congr goal hlimit fun v u hu hearly => ih ?_
    rw [Nat.succ_mul] at henough
    unfold Duration at *
    omega

/-- No wait runs out of readings: it ends in the same way with more of them, for every interval. -/
theorem waitFor_eq_pollUntil (hlimit : t + p.timeout < Clock.limit) (more : Nat) :
    h.waitFor id goal p deadline w t =
      h.pollUntil id goal p (t + p.timeout) (p.maxReads + more) deadline w t := by
  have henough : t + p.timeout ≤ t + (p.timeout / p.pause + 1) * p.pause := by
    rw [Nat.mul_comm]
    exact Nat.add_le_add_left (Nat.lt_mul_div_succ p.timeout Polling.pause_pos).le t
  rw [waitFor_of_lt goal hlimit, Polling.maxReads]
  exact (pollUntil_spare goal hlimit henough more).symm

end Waits

/-- A hypervisor that answers readings of the status at once and by a script. Reading number `n` is made in
the state `states n`. -/
def Replays (id : Identity) (script : Nat → Except Failure Status) (states : Nat → σ) : Prop :=
  ∀ n, (h (.status id) (states n)).reaction = .answered 0 (script n) (states (n + 1))

namespace Replays

variable {h} {id : Identity} {script : Nat → Except Failure Status} {states : Nat → σ} {deadline : Option Nat}
variable {t : Nat} (hscript : h.Replays id script states) (goal : Goal) (p : Polling) (log : List Call) (n : Nat)

/-- What is there after so many readings. -/
def world (id : Identity) (states : Nat → σ) (log : List Call) (n : Nat) : World σ :=
  ⟨states n, List.replicate n (.status id) ++ log⟩

include hscript

theorem call (hin : Steps.inTime deadline t) :
    h.call (.status id) deadline (world id states log n) t = .done (script n) (world id states log (n + 1)) t := by
  simp only [Hypervisor.call, world, hscript n, Nat.add_zero, hin, if_true]
  rfl

theorem hasReached (hin : Steps.inTime deadline t) :
    h.hasReached id goal deadline (world id states log n) t =
      .done (match goal.verdict? (script n) with
        | none => .ok false
        | some result => result.map fun _ => true) (world id states log (n + 1)) t := by
  change Steps.bind (Steps.attempt _) _ _ _ _ = _
  simp only [Steps.bind, Steps.attempt, hscript.call log n hin]
  cases script n with
  | ok status => cases hs : goal.isReached status <;> simp only [Goal.verdict?, hs] <;> rfl
  | error why => cases hs : why.isTransient <;> simp only [Goal.verdict?, hs] <;> rfl

/-- One reading: it ends the wait, or it is the last one, or the next one comes after a pause. -/
theorem pollUntil_succ (hin : Steps.inTime deadline t) {limit : Nat} (hlimit : limit < Clock.limit)
    (reads : Nat) :
    h.pollUntil id goal p limit (reads + 1) deadline (world id states log n) t =
      match goal.verdict? (script n) with
      | some result => .done result (world id states log (n + 1)) t
      | none =>
        if limit ≤ t then .done (.error (.notReached id goal p.timeout)) (world id states log (n + 1)) t
        else if Steps.inTime deadline (t + min p.pause (limit - t)) then
          h.pollUntil id goal p limit reads deadline (world id states log (n + 1)) (t + min p.pause (limit - t))
        else .cut (world id states log (n + 1)) := by
  change Steps.bind (h.hasReached id goal) _ _ _ _ = _
  simp only [Steps.bind, hscript.hasReached goal log n hin]
  rcases goal.verdict? (script n) with _ | ⟨why⟩ | ⟨⟩
  · change (if limit ≤ t then Steps.throw _ else Steps.bind _ _) deadline _ t = _
    split
    · rfl
    · rename_i hearly
      simp only [Steps.bind, Steps.sleep, Polling.alarm_pause hlimit (Nat.lt_of_not_le hearly)]
      cases Steps.inTime deadline (t + min p.pause (limit - t)) <;> rfl
  · rfl
  · rfl

/-- One reading of a wait that began at the moment `t`, at the moment for it. -/
theorem pollUntil_reading (hp : 0 < p.interval) (hlimit : t + p.timeout < Clock.limit)
    (hin : Steps.inTime deadline (t + p.moment n)) (reads : Nat) :
    h.pollUntil id goal p (t + p.timeout) (reads + 1) deadline (world id states log n) (t + p.moment n) =
      match goal.verdict? (script n) with
      | some result => .done result (world id states log (n + 1)) (t + p.moment n)
      | none =>
        if p.lastReading ≤ n then
          .done (.error (.notReached id goal p.timeout)) (world id states log (n + 1)) (t + p.moment n)
        else if Steps.inTime deadline (t + p.moment (n + 1)) then
          h.pollUntil id goal p (t + p.timeout) reads deadline (world id states log (n + 1))
            (t + p.moment (n + 1))
        else .cut (world id states log (n + 1)) := by
  have hlast : t + p.timeout ≤ t + p.moment n ↔ p.lastReading ≤ n := by
    rw [Nat.add_le_add_iff_left, Polling.timeout_le_moment_iff hp]
  have hnext : t + p.moment n + min p.pause (t + p.timeout - (t + p.moment n)) = t + p.moment (n + 1) := by
    rw [Polling.pause_eq hp, Polling.moment_succ, Nat.add_sub_add_left, Nat.add_assoc]
  simp only [hscript.pollUntil_succ goal p log n hin hlimit, hlast, hnext]

variable {n}

/-- As long as nothing is decided, a wait gets to its next reading. -/
theorem pollUntil_undecided (hp : 0 < p.interval) (hlimit : t + p.timeout < Clock.limit)
    (hopen : ∀ k < n, goal.verdict? (script k) = none)
    (hn : n ≤ p.lastReading) (hin : Steps.inTime deadline (t + p.moment n)) (reads : Nat) :
    h.pollUntil id goal p (t + p.timeout) (reads + n) deadline (world id states log 0) t =
      h.pollUntil id goal p (t + p.timeout) reads deadline (world id states log n) (t + p.moment n) := by
  induction n generalizing reads with
  | zero => rw [Polling.moment_zero, Nat.add_zero, Nat.add_zero]
  | succ n ih =>
    have hbefore : Steps.inTime deadline (t + p.moment n) :=
      Steps.inTime_of_le (Nat.add_le_add_left (Polling.moment_mono n.le_succ) t) hin
    have hreads : reads + (n + 1) = reads + 1 + n := by rw [Nat.add_right_comm, Nat.add_assoc]
    simp only [hreads, ih (fun k hk => hopen k (Nat.lt_succ_of_lt hk)) (Nat.le_of_succ_le hn) hbefore (reads + 1),
      hscript.pollUntil_reading goal p log n hp hlimit hbefore, hopen n n.lt_succ_self, Nat.not_le.2 hn, hin, if_true,
      if_false]

/-- The wait that gets to its reading number `n`. -/
theorem waitFor_undecided (hp : 0 < p.interval) (hlimit : t + p.timeout < Clock.limit)
    (hopen : ∀ k < n, goal.verdict? (script k) = none)
    (hn : n ≤ p.lastReading) (hin : Steps.inTime deadline (t + p.moment n)) :
    h.waitFor id goal p deadline (world id states log 0) t =
      h.pollUntil id goal p (t + p.timeout) (p.maxReads - (n + 1) + 1) deadline (world id states log n)
        (t + p.moment n) := by
  rw [waitFor_of_lt goal hlimit]
  have hreads : p.maxReads = p.maxReads - (n + 1) + 1 + n := by
    have := Polling.lastReading_lt_maxReads hp
    omega
  rw [← hscript.pollUntil_undecided goal p log hp hlimit hopen hn hin, ← hreads]

theorem waitFor_done (hp : 0 < p.interval) (hlimit : t + p.timeout < Clock.limit) (hn : p.Final goal script n)
    (hin : Steps.inTime deadline (t + p.moment n)) :
    h.waitFor id goal p deadline (world id states log 0) t =
      .done ((goal.verdict? (script n)).getD (.error (.notReached id goal p.timeout)))
        (world id states log (n + 1)) (t + p.moment n) := by
  rw [hscript.waitFor_undecided goal p log hp hlimit hn.undecided hn.le_last hin,
    hscript.pollUntil_reading goal p log n hp hlimit hin]
  cases hv : goal.verdict? (script n) with
  | some result => rfl
  | none => exact if_pos (Nat.le_of_not_lt fun hlt => hn.decides hlt hv)

/-- How many readings a wait has made when it is interrupted at the moment `d`. -/
theorem waitFor_interrupted (hp : 0 < p.interval) (hlimit : t + p.timeout < Clock.limit)
    (hn : p.Final goal script n) {d : Nat} (hd : t ≤ d) :
    ∃ m, (h.waitFor id goal p (some d) (world id states log 0) t).state = world id states log m ∧
      ∀ k, k < m ↔ k ≤ n ∧ t + p.moment k ≤ d := by
  have hmono {k l : Nat} (hkl : k ≤ l) : t + p.moment k ≤ t + p.moment l :=
    Nat.add_le_add_left (Polling.moment_mono hkl) t
  by_cases hend : t + p.moment n ≤ d
  · refine ⟨n + 1, ?_, fun k => ?_⟩
    · rw [hscript.waitFor_done goal p log hp hlimit hn (Steps.inTime_some.2 hend), Ending.state]
    · rw [Nat.lt_succ_iff]
      exact ⟨fun hk => ⟨hk, (hmono hk).trans hend⟩, And.left⟩
  · -- The reading `j` is the last one in time.
    obtain ⟨j, hj, hearly, hlate⟩ := Polling.exists_between hd (Nat.lt_of_not_le hend)
    refine ⟨j + 1, ?_, fun k => ?_⟩
    · have hjlast : ¬ p.lastReading ≤ j := Nat.not_le.2 (hj.trans_le hn.le_last)
      have hout : ¬ Steps.inTime (some d) (t + p.moment (j + 1)) := fun hin =>
        absurd (Steps.inTime_some.1 hin) (Nat.not_le.2 hlate)
      rw [hscript.waitFor_undecided goal p log hp hlimit (fun k hk => hn.undecided k (hk.trans hj))
        (hj.le.trans hn.le_last) (Steps.inTime_some.2 hearly),
        hscript.pollUntil_reading goal p log j hp hlimit (Steps.inTime_some.2 hearly), hn.undecided j hj]
      simp only [if_neg hjlast, if_neg hout, Ending.state]
    · rw [Nat.lt_succ_iff]
      refine ⟨fun hk => ⟨hk.trans hj.le, (hmono hk).trans hearly⟩, fun ⟨_, hk⟩ => ?_⟩
      by_contra hjk
      exact absurd (hmono (Nat.lt_of_not_le hjk)) (Nat.not_le.2 (hk.trans_lt hlate))

end Replays

/-- A hypervisor that knows nothing but a script for the readings of a status, and which line comes next. -/
def replaying (script : Nat → Except Failure Status) : Hypervisor Nat := fun call n =>
  match call with
  | .status _ => ⟨.answered 0 (script n) (n + 1), fun _ => n⟩
  | _ => ⟨.silent, fun _ => n⟩

/-- A failure that passes, then twice a stopped instance, which runs when it is read for the fourth time. -/
def slowStart : Nat → Except Failure Status
  | 0 => .error (.transient "")
  | 1 | 2 => .ok ⟨.stopped, none⟩
  | _ => .ok ⟨.running, none⟩

end Hypervisor

end Steward
