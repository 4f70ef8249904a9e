/-
What an orderly shutdown leaves for a hard stop. Of a deadline a reserve is kept, a quarter of it up to thirty
seconds; what is left is sent in whole seconds. Cutting off a fraction only adds to the reserve, but one second
is sent at least, and so a deadline of little more than a second is used up (`shutdown_leaves_reserve_iff`).
-/
import Mathlib
import Steward.Power
import Steward.Proofs.WebRequests

namespace Steward

open Duration

/-- What is kept of a deadline for a hard stop. -/
def stopReserve (deadline : Duration) : Duration := min (seconds 30) (deadline / 4)

/-- The whole seconds that are sent for the orderly part of a deadline. -/
def gracefulSeconds (deadline : Duration) : Nat := max (wholeSeconds (gracefulTime deadline)) 1

theorem gracefulTime_eq (deadline : Duration) : gracefulTime deadline = deadline - stopReserve deadline := rfl

theorem seconds_wholeSeconds_le (d : Duration) : seconds (wholeSeconds d) ≤ d := Nat.div_mul_le_self _ _

theorem second_le_gracefulTime_iff (deadline : Duration) :
    seconds 1 ≤ gracefulTime deadline ↔ 1333333333 ≤ deadline := by
  simp only [gracefulTime, seconds]
  unfold Duration at *
  omega

/-- Unless it is less than a second, the orderly part is not sent as more than it is. -/
theorem seconds_gracefulSeconds_le {deadline : Duration} (h : seconds 1 ≤ gracefulTime deadline) :
    seconds (gracefulSeconds deadline) ≤ gracefulTime deadline := by
  have hone : 1 ≤ wholeSeconds (gracefulTime deadline) := (Nat.le_div_iff_mul_le (by decide)).2 h
  rw [gracefulSeconds, Nat.max_eq_left hone]
  exact seconds_wholeSeconds_le _

theorem gracefulSeconds_of_lt {deadline : Duration} (h : gracefulTime deadline < seconds 1) :
    gracefulSeconds deadline = 1 := by
  have hnone : wholeSeconds (gracefulTime deadline) = 0 := (Nat.div_eq_zero_iff_lt (by decide)).2 (by
    simpa [seconds] using h)
  rw [gracefulSeconds, hnone]
  rfl

/-- So many seconds end before a deadline and leave the reserve for a hard stop. -/
structure LeavesReserve (sent : Nat) (deadline : Duration) : Prop where
  sooner : seconds sent < deadline
  reserve : stopReserve deadline ≤ deadline - seconds sent

theorem stopReserve_pos {deadline : Duration} (h : seconds 1 ≤ deadline) : 0 < stopReserve deadline := by
  simp only [stopReserve, seconds] at h ⊢
  unfold Duration at *
  omega

theorem leavesReserve_iff {deadline : Duration} (h : seconds 1 ≤ deadline) :
    LeavesReserve (gracefulSeconds deadline) deadline ↔ 1333333333 ≤ deadline := by
  rw [← second_le_gracefulTime_iff, gracefulTime_eq]
  have hreserve : stopReserve deadline ≤ deadline := (min_le_right _ _).trans (Nat.div_le_self _ _)
  constructor
  · intro hleaves
    by_contra hshort
    have hroom := hleaves.reserve
    rw [gracefulSeconds_of_lt (Nat.lt_of_not_le hshort), Nat.le_sub_iff_add_le h, Nat.add_comm] at hroom
    exact hshort (Nat.le_sub_of_add_le hroom)
  · intro hlong
    have hsent : seconds (gracefulSeconds deadline) + stopReserve deadline ≤ deadline :=
      (Nat.le_sub_iff_add_le hreserve).1 (seconds_gracefulSeconds_le hlong)
    have hpos := stopReserve_pos h
    exact ⟨Nat.lt_of_lt_of_le (Nat.lt_add_of_pos_right hpos) hsent, Nat.le_sub_of_add_le' hsent⟩

theorem seconds_gracefulSeconds_le_deadline {deadline : Duration} (h : seconds 1 ≤ deadline) :
    seconds (gracefulSeconds deadline) ≤ deadline := by
  rcases Nat.lt_or_ge (gracefulTime deadline) (seconds 1) with hshort | hlong
  · rwa [gracefulSeconds_of_lt hshort]
  · exact (seconds_gracefulSeconds_le hlong).trans (Nat.sub_le _ _)

open Rest in
/-- What a shutdown sends of a deadline of a second or more. It is never more than the deadline; it leaves the
reserve for a hard stop exactly from a deadline of four thirds of a second on, and below that it is one second. -/
theorem shutdown_leaves_reserve_iff (client : Client) (id : Identity) {deadline : Duration}
    (h : seconds 1 ≤ deadline) : ∃ sent,
      Sends (client.answer (PowerAction.shutdown.call id deadline)) (client.Mutation .post id.node
        (instancePath id "status/shutdown") [("forceStop", "1"), ("timeout", Text.decimal sent)]) ∧
      seconds sent ≤ deadline ∧ (LeavesReserve sent deadline ↔ 1333333333 ≤ deadline) ∧
      (deadline < 1333333333 → sent = 1) := by
  refine ⟨gracefulSeconds deadline, client.sends_mutate _ _ _ _, seconds_gracefulSeconds_le_deadline h,
    leavesReserve_iff h, fun hshort => gracefulSeconds_of_lt ?_⟩
  rw [← Nat.not_le, second_le_gracefulTime_iff]
  exact Nat.not_le.2 hshort

open Rest in
/-- A deadline of one second is sent as it is. -/
theorem shutdown_leaves_reserve_oneSecond :
    let client : Client := ⟨"http://pve1:8006/api2/json", "PVEAPIToken=root@pam!steward=secret", {}, seconds 1⟩
    let id : Identity := ⟨"pve1", 100, .vm⟩
    seconds 1 ≤ seconds 1 ∧
      Sends (client.answer (PowerAction.shutdown.call id (seconds 1))) (client.Mutation .post "pve1"
        (instancePath id "status/shutdown") [("forceStop", "1"), ("timeout", Text.decimal 1)]) ∧
      ¬ LeavesReserve 1 (seconds 1) := by
  intro client id
  obtain ⟨sent, hsent, -, hleaves, hone⟩ := shutdown_leaves_reserve_iff client id (le_refl (seconds 1))
  obtain rfl := hone (by decide)
  exact ⟨le_rfl, hsent, hleaves.not.2 (by decide)⟩

end Steward
