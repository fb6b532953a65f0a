import Delivery.Proofs.Calls.Chosen
import Delivery.Proofs.Delivering.Attempts

/-!
# The reason of a dead letter

The reason is worked out after the last attempt, by asking the policy once more whether it would
have retried the last failure. Main statement (`deadLettered_reason`): for settings that are
switched on and valid, the reason follows from the settings and the kind of the last failure, and
attempts have run out only where as many as the settings allow were made. A single attempt is no
retrying, so none can run out.
-/

namespace Delivery

variable {listener : Type}

/-! ### Settings -/

namespace RetrySettings

/-- Whether failures of a kind are retried as far as the lists of kinds go. -/
def retries (s : RetrySettings) (k : Kind) : Bool :=
  !s.nonRetriableKinds.contains k && (s.retriableKinds.isEmpty || s.retriableKinds.contains k)

/-- Why deliveries with these settings give a message up after a failure of a kind. -/
def reason (s : RetrySettings) (k : Kind) : Reason :=
  (Reason.ofKinds.lookup k).getD
    (if s.retries k && decide (1 < s.maxRetryAttempts) then .maxRetriesExceeded
      else .unhandledException)

/-- A policy retries as the settings say. -/
structure CarriedOut (s : RetrySettings) (policy : RetryPolicy) : Prop where
  maxAttempts_eq : policy.maxAttempts = s.maxRetryAttempts
  isRetriable_eq : ∀ {ε : Type} [Classified ε] (e : ε), isCancellation e = false →
    policy.isRetriable e = (s.retries (Classified.kind e) && decide (1 < s.maxRetryAttempts))

variable {s : RetrySettings}

theorem ofSettings_carriedOut (hon : s.enabled = true) (h : s.validate = .ok ()) :
    ∃ policy, RetryPolicy.ofSettings s = .ok policy ∧ s.CarriedOut policy := by
  obtain ⟨p, hp, hmax, hretried, hnot⟩ := retrying_of_validate h
  by_cases hone : s.maxRetryAttempts = 1
  · refine ⟨.once, ofSettings_of_single hone, hone.symm, fun e _ => ?_⟩
    simp [RetryPolicy.isRetriable, hone]
  · have hmany : 1 < s.maxRetryAttempts := by
      have := (of_validate h).1
      omega
    refine ⟨.retrying p, ?_, hmax, fun e hc => ?_⟩
    · rw [ofSettings_of_many hon hone, hp]
      rfl
    · simp [RetryPolicy.isRetriable, Retrying.isRetriable, hc, hmany, retries, hretried, hnot]

theorem CarriedOut.reason_eq {policy : RetryPolicy} (h : s.CarriedOut policy) {ε : Type}
    [Classified ε] (e : ε) (hc : isCancellation e = false) :
    Reason.ofKind (Classified.kind e) (policy.isRetriable e) = s.reason (Classified.kind e) := by
  unfold Reason.ofKind reason
  rw [h.isRetriable_eq e hc]

end RetrySettings

theorem Reason.retriable_of_ofKind {k : Kind} {retriable : Bool}
    (h : ofKind k retriable = .maxRetriesExceeded) : retriable = true := by
  have hown : ∀ p ∈ ofKinds, p.2 ≠ .maxRetriesExceeded := by decide
  unfold ofKind at h
  cases hk : ofKinds.lookup k with
  | some own =>
    obtain ⟨l₁, l₂, heq, -⟩ := List.lookup_eq_some_iff.mp hk
    rw [hk] at h
    exact absurd h (hown (k, own) (by simp [heq]))
  | none =>
    rw [hk] at h
    cases retriable with
    | true => rfl
    | false => cases h

/-! ### Counting attempts -/

namespace DeliveryPlan

variable {t : DeliveryPlan listener} {g : Gate (StateM (Scene Happening (Office listener)))}

/-- How retrying ends: a failure that is handed on is the last in the log, and one that would have
been retried had no attempt left. -/
def Concluded (policy : RetryPolicy) (s : Scene Happening (Office listener)) :
    Except (CallError (CallError TransportError)) Unit → Prop
  | .ok _ => True
  | .error .cancelled => True
  | .error (.circuitOpen _) => False
  | .error (.operation e) => isCancellation e = false ∧ JustFailed e s ∧
    (policy.isRetriable e = true → (attempts s.log).length = policy.maxAttempts)

/-- The attempts are numbered as the log has them, from the first to the last that the policy
allows. -/
theorem numbered (t : DeliveryPlan listener) (hg : g.Discreet) :
    RetryPolicy.Invariant (Runner.ofState (σ := Scene Happening (Office listener))).carrying
      t.retry (Scene.caller t.chance).lift (t.attempt g)
      (fun n p => (attempts p.2.log).length + 1 = n ∧ n ≤ t.retry.maxAttempts)
      (fun n e p => (attempts p.2.log).length = n ∧ n ≤ t.retry.maxAttempts ∧
        (e = .cancelled ∨ JustFailed e p.2))
      (fun r p => Concluded t.retry p.2 r) where
  call := by
    rintro n p ⟨hn, hle⟩
    refine (hg.attempt_log t p.1 p.2).mono ?_
    rintro (e | u) p' ⟨x, hlog, hfail⟩
    · refine ⟨?_, hle, (hfail e rfl).imp_right fun hx => ⟨p.2.log, x, hlog, hx⟩⟩
      rw [hlog, attempts_concat, List.length_append, ← hn]
      rfl
    · exact trivial
  stop := by
    intro n e p h
    exact Runner.carrying_lift.mpr fun _ => trivial
  final := by
    rintro n e p ⟨hn, hle, hfail⟩
    refine Runner.carrying_lift.mpr (Scene.cancelled_yields.mpr fun _ hc hl => ?_)
    refine ⟨hc, ?_, fun hr => ?_⟩
    · refine hfail.resolve_left ?_
      rintro rfl
      cases hc
    · have hmax : t.retry.maxAttempts ≤ n := by
        rcases hl with hno | hmax
        · rw [hr] at hno
          cases hno
        · exact hmax
      exact hn.trans (Nat.le_antisymm hle hmax)
  again := by
    rintro n e p ⟨hn, -, -⟩
    refine Runner.carrying_lift.mpr fun _ _ hlt => ?_
    refine Runner.carrying_lift.mpr (Runner.yields_ofState.mpr (Runner.carrying_lift.mpr ?_))
    refine Runner.yields_ofState.mpr ⟨fun _ => trivial, fun _ => ⟨?_, hlt⟩⟩
    show (attempts (p.2.log ++ [_])).length + 1 = n + 1
    rw [attempts_paused, hn]

theorem publishThrough_concluded (hg : g.Discreet) (hmax : 0 < t.retry.maxAttempts)
    (s : Scene Happening (Office listener)) (hs : s.log = []) :
    ∃ r, Concluded t.retry (t.publishThrough g s).2 r ∧
      (t.publishThrough g s).1.1 = r.mapError CallError.flatten := by
  have hstart : (attempts s.log).length + 1 = 1 ∧ 1 ≤ t.retry.maxAttempts := by
    rw [hs]
    exact ⟨rfl, hmax⟩
  have hrun := (numbered t hg).execute (0, s) hstart
  refine ⟨_, hrun, ?_⟩
  rfl

theorem Concluded.of_flatten {policy : RetryPolicy} {s : Scene Happening (Office listener)}
    {r : Except (CallError (CallError TransportError)) Unit} {failure : CallError TransportError}
    (h : Concluded policy s r) (hr : r.mapError CallError.flatten = .error failure)
    (hne : failure ≠ .cancelled) :
    isCancellation failure = false ∧ JustFailed failure s ∧
      (policy.isRetriable failure = true → (attempts s.log).length = policy.maxAttempts) := by
  match r, h with
  | .ok _, _ => cases hr
  | .error .cancelled, _ =>
    cases hr
    exact absurd rfl hne
  | .error (.operation e), h =>
    cases hr
    exact h

/-- The reason of a dead letter follows from the settings and the kind of the last failure, whatever
the breakers and the publications do, and is what is stored. Attempts have run out only after as
many as the settings allow. -/
theorem deadLettered_reason (s : RetrySettings) (hon : s.enabled = true)
    (hs : s.validate = .ok ()) :
    ∃ policy, RetryPolicy.ofSettings s = .ok policy ∧
      ∀ (t : DeliveryPlan listener) (registry : Registry listener) (store : MemoryStore)
        (id : EntryId) (reason : Reason), t.retry = policy →
        (t.run registry store).1 = .ok (.deadLettered id reason) →
        ∃ failure, JustFailed failure (t.run registry store).2 ∧
          reason = s.reason (Classified.kind failure) ∧
          (reason = .maxRetriesExceeded →
            (attempts (t.run registry store).2.log).length = s.maxRetryAttempts) ∧
          ((t.run registry store).2.rest.store.find? id).map (·.entry.reason) = some reason := by
  obtain ⟨policy, hpolicy, hcarried⟩ := s.ofSettings_carriedOut hon hs
  refine ⟨policy, hpolicy, ?_⟩
  rintro t registry store id reason rfl hrun
  rcases t.run_cases registry store with ⟨e, -, heq⟩ | ⟨number, registry', -, heq⟩
  · rw [heq] at hrun
    cases hrun
  · have hmax : 0 < t.retry.maxAttempts := by
      rw [hcarried.maxAttempts_eq]
      exact Nat.pos_of_ne_zero (RetrySettings.of_validate hs).1
    obtain ⟨r, hr, hflat⟩ := publishThrough_concluded (t.discreet_gate number) hmax
      (t.beginning registry' store) rfl
    rw [heq] at hrun ⊢
    obtain ⟨failure, hfailure, hne, rfl, rfl, hend⟩ := ending_deadLettered hrun
    obtain ⟨hc, hlast, hcount⟩ := hr.of_flatten (hflat.symm.trans hfailure) hne
    rw [hend]
    refine ⟨failure, hlast, hcarried.reason_eq failure hc, fun hreason => ?_, ?_⟩
    · exact (hcount (Reason.retriable_of_ofKind hreason)).trans hcarried.maxAttempts_eq
    · rw [find?_archive]
      rfl

/-- A delivery with the given settings on a transport that is down. -/
def downPlan (s : RetrySettings) : DeliveryPlan Unit where
  retry := ((RetryPolicy.ofSettings s).toOption).getD .once
  transport := "orders"
  message := { messageType := "order.placed" }
  publication _ := { lasts := 5, result := .error ⟨.transient, "down", none⟩ }
  chance _ := .two
  ids i := ⟨i⟩
  wallClock now := { nanos := (now : Nat) }

theorem downPlan_retry {s : RetrySettings} {policy : RetryPolicy}
    (h : RetryPolicy.ofSettings s = .ok policy) : (downPlan s).retry = policy := by
  unfold downPlan
  rw [h]
  rfl

def twoAttempts : RetrySettings := { maxRetryAttempts := 2, jitterEnabled := false }

theorem deadLettered_reason_exhausted :
    twoAttempts.enabled = true ∧ twoAttempts.validate = .ok () ∧
      RetryPolicy.ofSettings twoAttempts = .ok (downPlan twoAttempts).retry ∧
      ((downPlan twoAttempts).run {} {}).1 = .ok (.deadLettered ⟨0⟩ .maxRetriesExceeded) ∧
      ∃ failure, JustFailed failure ((downPlan twoAttempts).run {} {}).2 ∧
        .maxRetriesExceeded = twoAttempts.reason (Classified.kind failure) ∧
        (attempts ((downPlan twoAttempts).run {} {}).2.log).length = 2 := by
  have hs : twoAttempts.validate = .ok () := by decide +kernel
  have hrun : ((downPlan twoAttempts).run {} {}).1 =
      .ok (.deadLettered ⟨0⟩ .maxRetriesExceeded) := by decide +kernel
  obtain ⟨policy, hpolicy, h⟩ := @deadLettered_reason Unit twoAttempts rfl hs
  have hretry : (downPlan twoAttempts).retry = policy := downPlan_retry hpolicy
  obtain ⟨failure, hlast, hreason, hcount, -⟩ := h (downPlan twoAttempts) {} {} _ _ hretry hrun
  exact ⟨rfl, hs, hretry ▸ hpolicy, hrun, failure, hlast, hreason, hcount rfl⟩

def oneAttempt : RetrySettings := { maxRetryAttempts := 1 }

/-- Failures are retried by their kind, all attempts were made, and yet none counts as run out: a
single attempt is made without a policy that retries. -/
theorem oneAttempt_unhandled :
    oneAttempt.enabled = true ∧ oneAttempt.validate = .ok () ∧
      RetryPolicy.ofSettings oneAttempt = .ok (downPlan oneAttempt).retry ∧
      ((downPlan oneAttempt).run {} {}).1 = .ok (.deadLettered ⟨0⟩ .unhandledException) ∧
      attempts ((downPlan oneAttempt).run {} {}).2.log =
        [.published (.error ⟨.transient, "down", none⟩)] ∧
      Reason.ofKinds.lookup .transient = none ∧ oneAttempt.retries .transient = true := by
  refine ⟨rfl, by decide +kernel, rfl, by decide +kernel, by decide +kernel, by decide, by decide⟩

end DeliveryPlan

end Delivery
