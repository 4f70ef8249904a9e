/-
Two runs side by side. Steps that are related go on being related: they end at the same moment, with results
that are related or with the same error, or they panic or are cut off together. What a hypervisor is sent may differ
between the runs, as long as it does not answer to it (`Hypervisor.Oblivious`).
-/
import Mathlib
import Steward.Reconcile

namespace Steward

variable {σ ε ε' α β γ δ : Type}

/-! ## Endings and steps -/

/-- Results that `Q` relates, or one error. -/
inductive Except.Alike (Q : α → β → Prop) : Except ε α → Except ε β → Prop
  | ok {a : α} {b : β} (h : Q a b) : Alike Q (.ok a) (.ok b)
  | error (e : ε) : Alike Q (.error e) (.error e)

theorem Except.Alike.map {Q : α → β → Prop} {P : γ → δ → Prop} {x : Except ε α} {y : Except ε β} {f : α → γ}
    {g : β → δ} (h : Except.Alike Q x y) (hfg : ∀ a b, Q a b → P (f a) (g b)) :
    Except.Alike P (x.map f) (y.map g) := by
  cases h with
  | ok h => exact .ok (hfg _ _ h)
  | error e => exact .error e

/-- Endings at one moment with results that `Q` relates, with one error or both in a panic, or both cut off. -/
inductive Ending.Alike (R : σ → σ → Prop) (Q : α → β → Prop) : Ending σ ε α → Ending σ ε β → Prop
  | ok {a : α} {b : β} {s s' : σ} {t : Nat} (hQ : Q a b) (hR : R s s') :
    Alike R Q (.done (.ok a) s t) (.done (.ok b) s' t)
  | error {e : ε} {s s' : σ} {t : Nat} (hR : R s s') :
    Alike R Q (.done (.error e) s t) (.done (.error e) s' t)
  | panicked {s s' : σ} {t : Nat} (hR : R s s') : Alike R Q (.panicked s t) (.panicked s' t)
  | cut {s s' : σ} (hR : R s s') : Alike R Q (.cut s) (.cut s')

namespace Steps

/-- Steps that end alike on all states that `R` relates. -/
def Alike (R : σ → σ → Prop) (Q : α → β → Prop) (p : Steps σ ε α) (q : Steps σ ε β) : Prop :=
  ∀ deadline s s' t, R s s' → (p deadline s t).Alike R Q (q deadline s' t)

namespace Alike

variable {R : σ → σ → Prop} {P : α → β → Prop} {Q : γ → δ → Prop} {p : Steps σ ε α} {q : Steps σ ε β}

theorem pure {a : α} {b : β} (h : P a b) : Alike R P (Pure.pure a : Steps σ ε α) (Pure.pure b) :=
  fun _ _ _ _ hR => .ok h hR

theorem throw (e : ε) : Alike R P (Steps.throw e) (Steps.throw e) := fun _ _ _ _ hR => .error hR

theorem never : Alike R P (Steps.never : Steps σ ε α) Steps.never := fun _ _ _ _ hR => .cut hR

theorem panic : Alike R P (Steps.panic : Steps σ ε α) Steps.panic := fun _ _ _ _ hR => .panicked hR

theorem now : Alike R Eq (Steps.now : Steps σ ε Nat) Steps.now := fun _ _ _ _ hR => .ok rfl hR

theorem get : Alike R R (Steps.get : Steps σ ε σ) Steps.get := fun _ _ _ _ hR => .ok hR hR

theorem sleep (d : Duration) : Alike R Eq (Steps.sleep d : Steps σ ε Unit) (Steps.sleep d) := by
  intro deadline s s' t hR
  simp only [Steps.sleep]
  split
  · exact .ok rfl hR
  · exact .cut hR

theorem ofExcept {x : Except ε α} {y : Except ε β} (h : Except.Alike P x y) :
    Alike R P (Steps.ofExcept x : Steps σ ε α) (Steps.ofExcept y) := by
  cases h with
  | ok h => exact pure h
  | error e => exact throw e

theorem ofExcept_self (x : Except ε α) : Alike R Eq (Steps.ofExcept x : Steps σ ε α) (Steps.ofExcept x) := by
  cases x with
  | ok a => exact pure rfl
  | error e => exact throw e

theorem imp {P' : α → β → Prop} (h : Alike R P p q) (hP : ∀ a b, P a b → P' a b) : Alike R P' p q := by
  intro deadline s s' t hR
  have hend := h deadline s s' t hR
  generalize p deadline s t = ending, q deadline s' t = ending' at hend
  cases hend with
  | ok hQ hR => exact .ok (hP _ _ hQ) hR
  | error hR => exact .error hR
  | panicked hR => exact .panicked hR
  | cut hR => exact .cut hR

theorem bind {f : α → Steps σ ε γ} {g : β → Steps σ ε δ} (h : Alike R P p q)
    (hnext : ∀ a b, P a b → Alike R Q (f a) (g b)) : Alike R Q (p >>= f) (q >>= g) := by
  intro deadline s s' t hR
  change (Steps.bind p f deadline s t).Alike R Q (Steps.bind q g deadline s' t)
  rw [Steps.bind, Steps.bind]
  have hend := h deadline s s' t hR
  generalize p deadline s t = ending, q deadline s' t = ending' at hend
  cases hend with
  | ok hQ hR => exact hnext _ _ hQ deadline _ _ _ hR
  | error hR => exact .error hR
  | panicked hR => exact .panicked hR
  | cut hR => exact .cut hR

theorem attempt (h : Alike R P p q) : Alike R (Except.Alike P) p.attempt q.attempt := by
  intro deadline s s' t hR
  rw [Steps.attempt, Steps.attempt]
  have hend := h deadline s s' t hR
  generalize p deadline s t = ending, q deadline s' t = ending' at hend
  cases hend with
  | ok hQ hR => exact .ok (.ok hQ) hR
  | error hR => exact .ok (.error _) hR
  | panicked hR => exact .panicked hR
  | cut hR => exact .cut hR

/-- Steps that go on from a result, a failure included. -/
theorem bind_attempt {f : Except ε α → Steps σ ε γ} {g : Except ε β → Steps σ ε δ} (h : Alike R P p q)
    (hok : ∀ a b, P a b → Alike R Q (f (.ok a)) (g (.ok b)))
    (herror : ∀ e, Alike R Q (f (.error e)) (g (.error e))) :
    Alike R Q (p.attempt >>= f) (q.attempt >>= g) := by
  refine h.attempt.bind fun x y hxy => ?_
  cases hxy with
  | ok hP => exact hok _ _ hP
  | error e => exact herror e

theorem mapError (f : ε → ε') (h : Alike R P p q) : Alike R P (p.mapError f) (q.mapError f) := by
  intro deadline s s' t hR
  rw [Steps.mapError, Steps.mapError]
  have hend := h deadline s s' t hR
  generalize p deadline s t = ending, q deadline s' t = ending' at hend
  cases hend with
  | ok hQ hR => exact .ok hQ hR
  | error hR => exact .error hR
  | panicked hR => exact .panicked hR
  | cut hR => exact .cut hR

theorem within (timeout : Duration) (e : ε) (h : Alike R P p q) :
    Alike R P (p.within timeout e) (q.within timeout e) := by
  intro deadline s s' t hR
  simp only [Steps.within]
  split
  · have hend := h (some (Clock.alarm t timeout)) s s' t hR
    generalize p (some (Clock.alarm t timeout)) s t = ending,
      q (some (Clock.alarm t timeout)) s' t = ending' at hend
    cases hend with
    | ok hQ hR => exact .ok hQ hR
    | error hR => exact .error hR
    | panicked hR => exact .panicked hR
    | cut hR => exact .error hR
  · exact h deadline s s' t hR

end Alike

end Steps

/-! ## Calls -/

/-- A call that is answered by steps ends as they do, and leaves what they have done by its deadline. -/
theorem Steps.Alike.call_ofSteps {h : Hypervisor σ} {R : σ → σ → Prop} {c c' : Call}
    {Q : c.Answer → c'.Answer → Prop} {p : Steps σ Failure c.Answer} {q : Steps σ Failure c'.Answer}
    (hp : ∀ s, h c s = .ofSteps p s) (hq : ∀ s, h c' s = .ofSteps q s) (hpq : p.Alike R Q q) :
    (h.call c).Alike (fun w v => R w.remote v.remote) Q (h.call c') := by
  intro deadline w v t hR
  have habandoned (deadline : Option Nat) :
      R ((Exchange.ofSteps p w.remote).abandoned deadline)
        ((Exchange.ofSteps q v.remote).abandoned deadline) := by
    have hend := hpq deadline w.remote v.remote 0 hR
    simp only [Exchange.ofSteps]
    generalize p deadline w.remote 0 = ending, q deadline v.remote 0 = ending' at hend
    cases hend <;> assumption
  -- an answer is worked out without a deadline and then awaited until the caller's
  have hend := hpq none w.remote v.remote 0 hR
  unfold Hypervisor.call
  simp only [hp, hq, Exchange.ofSteps]
  generalize p none w.remote 0 = ending, q none v.remote 0 = ending' at hend
  cases hend with
  | ok hQ hR' =>
    dsimp only
    split
    · exact .ok hQ hR'
    · exact .cut (habandoned _)
  | panicked hR' =>
    dsimp only
    split
    · exact .panicked hR'
    · exact .cut (habandoned _)
  | error hR' =>
    dsimp only
    split
    · exact .error hR'
    · exact .cut (habandoned _)
  | cut hR' => exact .cut (habandoned _)

/-- A hypervisor that does not answer to the parameters it is sent: to calls that differ only there the
answers are the same, and what is read satisfies `C`. -/
structure Hypervisor.Oblivious (h : Hypervisor σ) (R : World σ → World σ → Prop) (C : Remote → Prop) :
    Prop where
  same (c : Call) : (h.call c).Alike R Eq (h.call c)
  configuration (id : Identity) :
    (h.call (.configuration id)).Alike R (fun a b : Remote => a = b ∧ C a) (h.call (.configuration id))
  create (node : String) {request request' : CreateRequest} (hk : request.kind = request'.kind)
    (hi : request.id = request'.id) :
    (h.call (.create node request)).Alike R (fun a b : UInt32 => a = b) (h.call (.create node request'))
  update (id : Identity) {request request' : UpdateRequest} (he : request.isEmpty = request'.isEmpty) :
    (h.call (.update id request)).Alike R (fun _ _ : Unit => True) (h.call (.update id request'))

namespace Hypervisor.Oblivious

variable {h : Hypervisor σ} {R : World σ → World σ → Prop} {C : Remote → Prop} (ho : h.Oblivious R C)

include ho

theorem callWithin (what : String) (timeout : Duration) (c : Call) :
    (h.callWithin what timeout c).Alike R Eq (h.callWithin what timeout c) := (ho.same c).within timeout _

theorem hasReached (id : Identity) (goal : Goal) :
    (h.hasReached id goal).Alike R Eq (h.hasReached id goal) := by
  refine (ho.same (.status id)).bind_attempt (fun a b hab => ?_) fun e => ?_
  · cases hab
    exact .pure rfl
  · dsimp only
    split
    · exact .pure rfl
    · exact .throw e

theorem pollUntil (id : Identity) (goal : Goal) (polling : Polling) (deadline reads : Nat) :
    (h.pollUntil id goal polling deadline reads).Alike R Eq (h.pollUntil id goal polling deadline reads) := by
  induction reads with
  | zero => exact .throw _
  | succ reads ih =>
    refine (ho.hasReached id goal).bind fun reached _ hreached => ?_
    cases hreached
    cases reached with
    | true => exact .pure rfl
    | false =>
      refine Steps.Alike.now.bind fun moment _ hmoment => ?_
      cases hmoment
      split
      · exact .throw _
      · exact (Steps.Alike.sleep _).bind fun _ _ _ => ih

theorem waitFor (id : Identity) (goal : Goal) (polling : Polling) :
    (h.waitFor id goal polling).Alike R Eq (h.waitFor id goal polling) := by
  refine Steps.Alike.now.bind fun moment _ hmoment => ?_
  cases hmoment
  cases Clock.after? moment polling.timeout with
  | some deadline => exact ho.pollUntil _ _ _ deadline _
  | none => exact .panic

theorem settle (id : Identity) (interval timeout : Duration) (action : PowerAction) :
    (h.settle id interval timeout action).Alike R Eq (h.settle id interval timeout action) := by
  refine Steps.Alike.now.bind fun started _ hstarted => ?_
  cases hstarted
  refine (ho.callWithin _ _ _).bind fun _ _ _ => Steps.Alike.now.bind fun moment _ hmoment => ?_
  cases hmoment
  exact ho.waitFor _ _ _

theorem power (id : Identity) (interval timeout : Duration) (action : PowerAction) (state : PowerState) :
    (h.power id interval timeout action state).Alike R Eq (h.power id interval timeout action state) := by
  unfold Hypervisor.power
  split
  · exact (ho.settle id interval timeout action).bind_attempt (fun _ _ _ => .pure rfl) fun e => .pure rfl
  · exact .pure rfl

end Hypervisor.Oblivious

end Steward
