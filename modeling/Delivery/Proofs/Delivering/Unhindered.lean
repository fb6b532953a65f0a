import Delivery.Proofs.Delivering.Attempts
import Delivery.Proofs.Registry.SwitchedOff

/-!
# Unhindered deliveries

A breaker can do nothing to a delivery but refuse attempts. Where it refuses none, the publication
with retries goes on as if there were no gate (`publishThrough_straight`): both sides are followed
attempt by attempt, and what is left to do without a gate comes to the same end all along. Main
statement (`unhindered_alike`): such a delivery is like the same one with breakers from nowhere,
like the same one with breakers that are switched off, and like one that retries the publication
itself.
-/

namespace Delivery

variable {listener : Type}

def Refused (s : Scene Happening (Office listener)) : Prop := ∃ c, .refused c ∈ attempts s.log

theorem Refused.of_log_eq {s s' : Scene Happening (Office listener)} {now : Instant}
    {x : Happening} (h : Refused s) (hlog : s'.log = s.log ++ [(now, .happened x)]) :
    Refused s' := by
  obtain ⟨c, hc⟩ := h
  refine ⟨c, ?_⟩
  rw [hlog, attempts_concat]
  exact List.mem_append_left _ hc

theorem Gate.of_reported {stopped : Bool} {e : CallError TransportError} {e' : TransportError}
    (h : .error e = Gate.reported stopped (.error e')) :
    (stopped || isCancellation e') = true ∧ e = .cancelled ∨
      (stopped || isCancellation e') = false ∧ e = .operation e' := by
  dsimp only [Gate.reported] at h
  rw [Bool.or_comm]
  split at h
  · rename_i hcut
    cases h
    exact Or.inl ⟨hcut, rfl⟩
  · rename_i hgo
    cases h
    exact Or.inr ⟨by simpa using hgo, rfl⟩

theorem RetryPolicy.isRetriable_operation (policy : RetryPolicy) (e : TransportError) :
    policy.isRetriable (CallError.operation e) = policy.isRetriable e := by
  cases policy <;> rfl

theorem RetryPolicy.isRetriable_cancelled (policy : RetryPolicy) :
    policy.isRetriable (CallError.cancelled : CallError TransportError) = false := by
  cases policy <;> rfl

namespace DeliveryPlan

variable {t : DeliveryPlan listener} {g : Gate (StateM (Scene Happening (Office listener)))}
  {s s' : Scene Happening (Office listener)}

variable (t) in
/-- The publication with retries, without a gate. -/
def publishStraight :
    StateM (Scene Happening (Office listener)) (Except (CallError TransportError) Unit) :=
  t.retry.execute (Scene.caller t.chance) (t.publish t.message)

theorem waited_bare (policy : RetryPolicy) (chance : Nat → Double) (n : Nat) :
    RetryPolicy.waited policy chance n s.bare =
      ((RetryPolicy.waited policy chance n s).1, (RetryPolicy.waited policy chance n s).2.bare) :=
  rfl

/-! ### Following the attempts -/

/-- What is left without a gate after an attempt comes to the same end as all of it. -/
theorem follows (t : DeliveryPlan listener) (hg : g.Discreet)
    (last : Except (CallError TransportError) Unit × Scene Happening (Office listener)) :
    RetryPolicy.Invariant (Runner.ofState (σ := Scene Happening (Office listener))).carrying
      t.retry (Scene.caller t.chance).lift (t.attempt g)
      (fun n p => Refused p.2 ∨ p.1 = p.2.rest.publications ∧
        t.retry.attemptsFrom (Scene.caller t.chance) (t.publish t.message) n p.2.bare = last)
      (fun n e p => Refused p.2 ∨ p.1 = p.2.rest.publications ∧
        ∃ e', .error e = Gate.reported p.2.isStopped (.error e') ∧
          t.retry.afterFailure (Scene.caller t.chance) (t.publish t.message) n e' p.2.bare = last)
      (fun r p => Refused p.2 ∨ p.1 = p.2.rest.publications ∧ p.2.bare = last.2 ∧
        r.mapError CallError.flatten = last.1) where
  call := by
    rintro n p (hno | ⟨hcount, hlast⟩)
    · refine (hg.attempt_log t p.1 p.2).mono ?_
      rintro (e | u) p' ⟨x, hlog, -⟩
      · exact Or.inl (hno.of_log_eq hlog)
      · exact Or.inl (hno.of_log_eq hlog)
    · refine (hg.attempt t p.1 p.2).mono ?_
      rintro r p' (⟨c, rfl, -, hbare⟩ | ⟨rfl, hp, hbare⟩)
      · have hlog : p'.2.bare.log = p.2.log ++ [(p.2.clock, .happened (.refused c))] := by
          rw [hbare]
          rfl
        refine Or.inl ⟨c, ?_⟩
        rw [show p'.2.log = _ from hlog, attempts_concat]
        exact List.mem_append_right _ (List.mem_singleton.mpr rfl)
      · have hpublications : p'.1 = p'.2.bare.rest.publications := by
          rw [hbare, hp, hcount]
          rfl
        rw [RetryPolicy.attemptsFrom_run, ← hbare] at hlast
        cases hr : (t.publish t.message p.2.bare).1 with
        | ok u =>
          rw [hr] at hlast
          exact Or.inr ⟨hpublications, congrArg Prod.snd hlast, congrArg Prod.fst hlast⟩
        | error e' =>
          rw [hr] at hlast
          cases hreport : Gate.reported p'.2.isStopped (.error e') with
          | ok u =>
            dsimp only [Gate.reported] at hreport
            split at hreport <;> cases hreport
          | error e => exact Or.inr ⟨hpublications, e', hreport.symm, hlast⟩
  stop := by
    rintro n e p h
    refine Runner.carrying_lift.mpr (Scene.cancelled_yields.mpr fun hstop => ?_)
    refine h.imp_right ?_
    rintro ⟨hcount, e', he, hlast⟩
    have hcut : (p.2.bare.isStopped || isCancellation e') = true := by
      rcases Gate.of_reported he with ⟨hcut, -⟩ | ⟨hgo, rfl⟩
      · exact hcut
      · exact (Bool.or_eq_true _ _).mpr hstop
    rw [RetryPolicy.afterFailure_cancelled hcut] at hlast
    exact ⟨hcount, congrArg Prod.snd hlast, congrArg Prod.fst hlast⟩
  final := by
    rintro n e p h
    refine Runner.carrying_lift.mpr (Scene.cancelled_yields.mpr fun _ hc hl => ?_)
    refine h.imp_right ?_
    rintro ⟨hcount, e', he, hlast⟩
    rcases Gate.of_reported he with ⟨-, rfl⟩ | ⟨hgo, rfl⟩
    · cases hc
    · have hgo : (p.2.bare.isStopped || isCancellation e') = false := hgo
      rw [RetryPolicy.afterFailure_last hgo (t.retry.isRetriable_operation e' ▸ hl)] at hlast
      exact ⟨hcount, congrArg Prod.snd hlast, congrArg Prod.fst hlast⟩
  again := by
    rintro n e p h
    refine Runner.carrying_lift.mpr (Scene.cancelled_yields.mpr fun _ hr hlt => ?_)
    refine Runner.carrying_lift.mpr (Runner.yields_ofState.mpr (Runner.carrying_lift.mpr ?_))
    show ((RetryPolicy.waited t.retry t.chance n p.2).1 = true → _) ∧
      ((RetryPolicy.waited t.retry t.chance n p.2).1 = false → _)
    rcases h with ⟨c, hno⟩ | ⟨hcount, e', he, hlast⟩
    · have hstill : Refused (RetryPolicy.waited t.retry t.chance n p.2).2 := by
        refine ⟨c, ?_⟩
        show _ ∈ attempts (p.2.log ++ [_])
        rw [attempts_paused]
        exact hno
      exact ⟨fun _ => Or.inl hstill, fun _ => Or.inl hstill⟩
    · rcases Gate.of_reported he with ⟨-, rfl⟩ | ⟨hgo, rfl⟩
      · rw [RetryPolicy.isRetriable_cancelled] at hr
        cases hr
      · have hgo : (p.2.bare.isStopped || isCancellation e') = false := hgo
        rw [RetryPolicy.afterFailure_again hgo hr hlt, waited_bare] at hlast
        refine ⟨fun hcut => Or.inr ⟨hcount, ?_⟩, fun hgo => Or.inr ⟨hcount, ?_⟩⟩
        · rw [if_pos hcut] at hlast
          exact ⟨congrArg Prod.snd hlast, congrArg Prod.fst hlast⟩
        · rw [if_neg (by simp [hgo])] at hlast
          exact hlast

/-- Through a gate that refuses nothing, the publication goes on as without a gate. -/
theorem publishThrough_straight (t : DeliveryPlan listener) (hg : g.Discreet)
    (s : Scene Happening (Office listener)) (hs : s.rest.publications = 0) :
    Refused (t.publishThrough g s).2 ∨
      (t.publishThrough g s).2.bare = (t.publishStraight s.bare).2 ∧
      (t.publishThrough g s).1 = ((t.publishStraight s.bare).1,
        (t.publishStraight s.bare).2.rest.publications) := by
  have hstart : t.retry.attemptsFrom (Scene.caller t.chance) (t.publish t.message) 1 s.bare =
      t.publishStraight s.bare := by
    rw [publishStraight, RetryPolicy.execute_eq_attemptsFrom]
  have hrun := (follows t hg (t.publishStraight s.bare)).execute (0, s)
    (Or.inr ⟨hs.symm, hstart⟩)
  refine hrun.imp_right ?_
  rintro ⟨hcount, hbare, hr⟩
  refine ⟨hbare, Prod.ext hr ?_⟩
  rw [← hbare]
  exact hcount

/-! ### Gates that let everything pass -/

/-- As long as this holds of the registry, the gate refuses nothing, and it goes on to hold. -/
structure Welcoming (g : Gate (StateM (Scene Happening (Office listener))))
    (P : Registry listener → Prop) : Prop extends g.Discreet where
  admits : ∀ s, P s.rest.registry →
    (g.acquire s).1 = .ok () ∧ P (g.acquire s).2.rest.registry
  afterSuccess : ∀ s, P s.rest.registry → P (g.recordSuccess s).2.rest.registry
  afterFailure : ∀ incident s, P s.rest.registry → P (g.recordFailure incident s).2.rest.registry

def Calm (P : Registry listener → Prop) (s : Scene Happening (Office listener)) : Prop :=
  P s.rest.registry ∧ ¬ Refused s

variable {P : Registry listener → Prop}

theorem Calm.of_attempts (h : Calm P s) (hp : P s'.rest.registry)
    (hlog : ∀ c, .refused c ∈ attempts s'.log → .refused c ∈ attempts s.log) : Calm P s' :=
  ⟨hp, fun ⟨c, hc⟩ => h.2 ⟨c, hlog c hc⟩⟩

theorem Calm.of_bare (h : Calm P s) (hp : P s'.rest.registry) (hbare : s'.bare = s.bare) :
    Calm P s' := by
  have hlog : s'.bare.log = s.bare.log := by rw [hbare]
  exact h.of_attempts hp fun c hc => by rwa [show s'.log = s.log from hlog] at hc

theorem Calm.publish (h : Calm P s) (t : DeliveryPlan listener) :
    Calm P (t.publish t.message s).2 := by
  refine h.of_attempts h.1 fun c hc => ?_
  have hlog : attempts (t.publish t.message s).2.log =
      attempts s.log ++ [.published (t.publish t.message s).1] := attempts_concat ..
  rw [hlog] at hc
  rcases List.mem_append.mp hc with hc | hc
  · exact hc
  · cases List.mem_singleton.mp hc

theorem Welcoming.attempt (hw : Welcoming g P) (t : DeliveryPlan listener) (count : Nat)
    (h : Calm P s) :
    Runner.ofState.carrying.Yields (t.attempt g) (count, s) fun _ p => Calm P p.2 := by
  refine Gate.guard_yields (Runner.carrying_lift.mpr ?_)
  rw [Runner.yields_ofState]
  obtain ⟨hr, hp⟩ := hw.admits s h.1
  have hbare : (g.acquire s).2.bare = s.bare := by
    rcases hw.acquire s with ⟨-, hbare⟩ | ⟨c, hno, -⟩
    · exact hbare
    · rw [hr] at hno
      cases hno
  have hpublished := (h.of_bare hp hbare).publish t
  rw [hr]
  refine Runner.yields_bind.mpr (Runner.carrying_modify.mpr (Runner.carrying_lift.mpr ?_))
  rw [Runner.yields_ofState]
  cases (t.publish t.message (g.acquire s).2).1 with
  | ok u =>
    exact Runner.carrying_lift.mpr
      (hpublished.of_bare (hw.afterSuccess _ hpublished.1) (hw.success _))
  | error e =>
    refine Runner.carrying_lift.mpr (Scene.cancelled_yields.mpr ⟨fun _ => hpublished, ?_⟩)
    intro _ _
    exact Runner.carrying_lift.mpr
      (hpublished.of_bare (hw.afterFailure _ _ hpublished.1) (hw.failure _ _))

theorem Welcoming.invariant (hw : Welcoming g P) (t : DeliveryPlan listener) :
    RetryPolicy.Invariant (Runner.ofState (σ := Scene Happening (Office listener))).carrying
      t.retry (Scene.caller t.chance).lift (t.attempt g) (fun _ p => Calm P p.2)
      (fun _ _ p => Calm P p.2) (fun _ p => Calm P p.2) where
  call := by
    intro n p h
    refine (hw.attempt t p.1 h).mono ?_
    rintro (e | u) p' h' <;> exact h'
  stop _ _ _ h := Runner.carrying_lift.mpr fun _ => h
  final _ _ _ h := Runner.carrying_lift.mpr fun _ _ _ => h
  again := by
    intro n e p h
    refine Runner.carrying_lift.mpr fun _ _ _ => ?_
    refine Runner.carrying_lift.mpr (Runner.yields_ofState.mpr (Runner.carrying_lift.mpr ?_))
    have hwaited : Calm P (RetryPolicy.waited t.retry t.chance n p.2).2 := by
      refine h.of_attempts h.1 fun c hc => ?_
      have hlog : attempts (RetryPolicy.waited t.retry t.chance n p.2).2.log = attempts p.2.log :=
        attempts_paused ..
      rwa [hlog] at hc
    exact ⟨fun _ => hwaited, fun _ => hwaited⟩

theorem Welcoming.publishThrough_straight (hw : Welcoming g P) (t : DeliveryPlan listener)
    (h : Calm P s) (hs : s.rest.publications = 0) :
    (t.publishThrough g s).2.bare = (t.publishStraight s.bare).2 ∧
      (t.publishThrough g s).1 = ((t.publishStraight s.bare).1,
        (t.publishStraight s.bare).2.rest.publications) :=
  (DeliveryPlan.publishThrough_straight t hw.toDiscreet s hs).resolve_left
    ((hw.invariant t).execute (0, s) h).2

/-- The gate of a breaker that nothing changes. -/
def fixedGate (b : Breaker listener) : Gate (StateM (Scene Happening (Office listener))) :=
  .ofServe fun request s => ((b.serve s.clock request).answer, s)

theorem welcoming_fixedGate (label : String) :
    Welcoming (fixedGate (.alwaysClosed label : Breaker listener)) fun _ => True where
  acquire s := Or.inl (by rw [fixedGate, Gate.acquire_ofServe]; exact ⟨rfl, rfl⟩)
  success _ := rfl
  failure _ _ := rfl
  admits s _ := by rw [fixedGate, Gate.acquire_ofServe]; exact ⟨rfl, trivial⟩
  afterSuccess _ _ := trivial
  afterFailure _ _ _ := trivial

theorem welcoming_gate {number : Nat}
    (ho : ∀ i r, Relation.ReflTransGen Registry.Step r (t.others i r)) :
    Welcoming (t.gate number) fun r => r.ClosedAt number where
  toDiscreet := t.discreet_gate number
  admits s h := by
    have hothers := h.steps (ho s.rest.requests s.rest.registry)
    have hserve : (t.serve number .acquire s).1 = .admitted := hothers.admitted s.clock
    have hacquire : (Gate.ofServe (t.serve number)).acquire s =
        (.ok (), (t.serve number .acquire s).2) := by rw [Gate.acquire_ofServe, hserve]
    rw [gate_acquire, hacquire]
    exact ⟨rfl, hothers.step (.served _ _ _ _)⟩
  afterSuccess s h := (h.steps (ho _ _)).step (.served _ _ _ _)
  afterFailure incident s h := (h.steps (ho _ _)).step (.served _ _ _ _)

/-! ### Deliveries that are alike -/

/-- Breakers from nowhere: each name has one that is always closed. -/
def nowhere : Breakers listener := fun name s =>
  ((alwaysClosedBreaker name : Except RegistryError (Breaker listener)).map fixedGate, s)

theorem nowhere_eq (name : String) (s : Scene Happening (Office listener)) :
    (trimName name = "" ∧ nowhere name s = (.error .blankName, s)) ∨
      (trimName name ≠ "" ∧
        nowhere name s = (.ok (fixedGate (.alwaysClosed (trimName name))), s)) := by
  unfold nowhere alwaysClosedBreaker
  rcases normaliseName_eq name with ⟨hblank, hn⟩ | ⟨hblank, key, hn⟩
  · exact Or.inl ⟨hblank, by rw [hn]; rfl⟩
  · exact Or.inr ⟨hblank, by rw [hn]; rfl⟩

variable (t) in
/-- A delivery that retries the publication itself. -/
def runStraight (store : MemoryStore) :
    Except DeliveryError DeliveryOutcome × Scene Happening (Office listener) :=
  let (r, s) := t.publishStraight (t.beginning {} store)
  t.ending s (r, s.rest.publications)

end DeliveryPlan

def DeliveryOutcome.aside : DeliveryOutcome → DeliveryOutcome
  | .deadLettered _ reason => .deadLettered ⟨0⟩ reason
  | .delivered n => .delivered n

def Entry.aside (e : Entry) : Entry := { e with id := ⟨0⟩, enqueuedAt := { nanos := 0 } }

/-- What a delivery adds to a store: a dead letter under the id that it reports, or nothing. -/
def Archives (store : MemoryStore)
    (x : Except DeliveryError DeliveryOutcome × Scene Happening (Office listener)) :
    Option Entry → Prop
  | none => (∀ id reason, x.1 ≠ .ok (.deadLettered id reason)) ∧ x.2.rest.store = store
  | some e => (∃ reason, x.1 = .ok (.deadLettered e.id reason)) ∧
    x.2.rest.store = { store with slots := MemoryStore.insertSlot ⟨e, none⟩ store.slots }

/-- Two deliveries end alike, at the same time, with the same publications and waits at the same
times, and add the same to the store; ids and times of dead letters aside. -/
structure EndAlike (store : MemoryStore)
    (a b : Except DeliveryError DeliveryOutcome × Scene Happening (Office listener)) : Prop where
  outcome : a.1.map DeliveryOutcome.aside = b.1.map DeliveryOutcome.aside
  log : a.2.log = b.2.log
  clock : a.2.clock = b.2.clock
  archived : ∃ e e', Archives store a e ∧ Archives store b e' ∧
    e.map Entry.aside = e'.map Entry.aside

namespace DeliveryPlan

/-- The same plan with other ids, another wall clock and other users of the registry. -/
def varied (t : DeliveryPlan listener) (ids : Nat → EntryId) (wallClock : Instant → Timestamp)
    (others : Nat → Registry listener → Registry listener) : DeliveryPlan listener :=
  { t with ids, wallClock, others }

variable {t : DeliveryPlan listener} {store : MemoryStore}
  {s s' : Scene Happening (Office listener)}
  {ids : Nat → EntryId} {wallClock : Instant → Timestamp}
  {others : Nat → Registry listener → Registry listener}

theorem archive_alike (failure : CallError TransportError) (count : Nat)
    (hbare : s.bare = s'.bare) (hs : s.rest.store = store) (hs' : s'.rest.store = store) :
    let t' := t.varied ids wallClock others
    let reason := Reason.ofKind (Classified.kind failure) (t.retry.isRetriable failure)
    EndAlike store (.ok (.deadLettered (t.ids s.rest.ids) reason), t.archive failure count s)
      (.ok (.deadLettered (t'.ids s'.rest.ids) reason), t'.archive failure count s') where
  outcome := rfl
  log := by
    have hlog : s.bare.log = s'.bare.log := by rw [hbare]
    exact hlog
  clock := by
    have hclock : s.bare.clock = s'.bare.clock := by rw [hbare]
    exact hclock
  archived := by
    let reason := Reason.ofKind (Classified.kind failure) (t.retry.isRetriable failure)
    refine ⟨some (t.letter (t.ids s.rest.ids) reason failure count s.clock),
      some ((t.varied ids wallClock others).letter (ids s'.rest.ids) reason failure count s'.clock),
      ⟨⟨_, rfl⟩, ?_⟩, ⟨⟨_, rfl⟩, ?_⟩, rfl⟩
    · rw [← hs]
      rfl
    · rw [← hs']
      rfl

theorem ending_alike (hbare : s.bare = s'.bare) (hs : s.rest.store = store)
    (r : Except (CallError TransportError) Unit × Nat) :
    EndAlike store (t.ending s r) ((t.varied ids wallClock others).ending s' r) := by
  have hlog : s.bare.log = s'.bare.log := by rw [hbare]
  have hclock : s.bare.clock = s'.bare.clock := by rw [hbare]
  have hstore : s.bare.rest.store = s'.bare.rest.store := by rw [hbare]
  have hs' : s'.rest.store = store := hstore.symm.trans hs
  match r with
  | (.ok (), count) => exact ⟨rfl, hlog, hclock, none, none, ⟨nofun, hs⟩, ⟨nofun, hs'⟩, rfl⟩
  | (.error .cancelled, count) =>
    exact ⟨rfl, hlog, hclock, none, none, ⟨nofun, hs⟩, ⟨nofun, hs'⟩, rfl⟩
  | (.error (.circuitOpen c), count) => exact archive_alike (.circuitOpen c) count hbare hs hs'
  | (.error (.operation e), count) => exact archive_alike (.operation e) count hbare hs hs'

theorem publishStraight_store (t : DeliveryPlan listener)
    (s : Scene Happening (Office listener)) :
    (t.publishStraight s).2.rest.store = s.rest.store := by
  have hkeep : RetryPolicy.Invariant (Runner.ofState (σ := Scene Happening (Office listener)))
      t.retry (Scene.caller t.chance) (t.publish t.message)
      (fun _ s' => s'.rest.store = s.rest.store) (fun _ _ s' => s'.rest.store = s.rest.store)
      (fun _ s' => s'.rest.store = s.rest.store) := {
    call := by
      intro n s' h
      rw [Runner.yields_ofState]
      split <;> exact h
    stop := fun _ _ _ h _ => h
    final := fun _ _ _ h _ _ _ => h
    again := fun _ _ _ h _ _ _ => ⟨fun _ => h, fun _ => h⟩ }
  exact hkeep.execute s rfl

variable (t store) in
/-- A delivery that ends as retrying the publication itself does, unless the name is blank. -/
def Straight (x : Except DeliveryError DeliveryOutcome × Scene Happening (Office listener)) :
    Prop :=
  (trimName t.transport = "" ∧
    ∃ r, x = (.error (.registry .blankName), t.beginning r store)) ∨
  (trimName t.transport ≠ "" ∧
    ∃ s, s.bare = (t.publishStraight (t.beginning {} store)).2.bare ∧
      x = t.ending s ((t.publishStraight (t.beginning {} store)).1,
        (t.publishStraight (t.beginning {} store)).2.rest.publications))

theorem Straight.alike
    {a b : Except DeliveryError DeliveryOutcome × Scene Happening (Office listener)}
    (ha : t.Straight store a) (hb : (t.varied ids wallClock others).Straight store b) :
    EndAlike store a b := by
  rcases ha with ⟨hblank, r, rfl⟩ | ⟨hname, s, hs, rfl⟩
  · rcases hb with ⟨-, r', rfl⟩ | ⟨hno, -⟩
    · exact ⟨rfl, rfl, rfl, none, none, ⟨nofun, rfl⟩, ⟨nofun, rfl⟩, rfl⟩
    · exact absurd hblank hno
  · rcases hb with ⟨hno, -⟩ | ⟨-, s', hs', rfl⟩
    · exact absurd hno hname
    · have hstore : s.bare.rest.store = store := by
        rw [hs]
        exact publishStraight_store t (t.beginning {} store)
      exact ending_alike (hs.trans hs'.symm) hstore _

theorem straight_runStraight (hname : trimName t.transport ≠ "") :
    t.Straight store (t.runStraight store) := Or.inr ⟨hname, _, rfl, rfl⟩

/-- Delivering through a gate that has refused nothing. -/
theorem straight_runThrough {breakers : Breakers listener}
    {g : Gate (StateM (Scene Happening (Office listener)))} {registry : Registry listener}
    (hname : trimName t.transport ≠ "")
    (hgate : breakers t.transport s = (.ok g, t.beginning registry store))
    (hstraight : (t.publishThrough g (t.beginning registry store)).2.bare =
        (t.publishStraight (t.beginning {} store)).2 ∧
      (t.publishThrough g (t.beginning registry store)).1 =
        ((t.publishStraight (t.beginning {} store)).1,
          (t.publishStraight (t.beginning {} store)).2.rest.publications)) :
    t.Straight store (t.runThrough breakers s) := by
  obtain ⟨hbare, hr⟩ := hstraight
  rw [runThrough_of_ok hgate, hr]
  refine Or.inr ⟨hname, _, ?_, rfl⟩
  rw [← hbare]
  rfl

theorem calm_beginning (t : DeliveryPlan listener) {P : Registry listener → Prop}
    {registry : Registry listener} (h : P registry) (store : MemoryStore) :
    Calm P (t.beginning registry store) := ⟨h, fun ⟨_, hc⟩ => by cases hc⟩

theorem straight_of_nowhere (t : DeliveryPlan listener) (store : MemoryStore) :
    t.Straight store (t.runThrough nowhere (t.beginning {} store)) := by
  rcases nowhere_eq t.transport (t.beginning {} store) with ⟨hblank, hg⟩ | ⟨hname, hg⟩
  · exact Or.inl ⟨hblank, {}, runThrough_of_error hg⟩
  · exact straight_runThrough hname hg
      ((welcoming_fixedGate _).publishThrough_straight t (t.calm_beginning trivial store) rfl)

theorem straight_of_switchedOff (t : DeliveryPlan listener) (store : MemoryStore)
    (ho : ∀ i r, Relation.ReflTransGen Registry.Step r (t.others i r))
    {registry : Registry listener} (hd : registry.SwitchedOff t.transport) :
    t.Straight store (t.run registry store) := by
  rcases hd.getOrCreate_eq with ⟨hblank, hg⟩ | ⟨hname, number, registry', hg, hclosed⟩
  · exact Or.inl ⟨hblank, registry, runThrough_of_error (gate_of_error hg)⟩
  · exact straight_runThrough hname (gate_of_ok hg)
      ((welcoming_gate ho).publishThrough_straight t (t.calm_beginning hclosed store) rfl)

theorem ending_log (t : DeliveryPlan listener) (s : Scene Happening (Office listener))
    (r : Except (CallError TransportError) Unit × Nat) : (t.ending s r).2.log = s.log := by
  match r with
  | (.ok (), count) => rfl
  | (.error .cancelled, count) => rfl
  | (.error (.circuitOpen c), count) => rfl
  | (.error (.operation e), count) => rfl

theorem straight_of_not_refused (t : DeliveryPlan listener) (store : MemoryStore)
    {registry : Registry listener} (hr : registry.Reachable)
    (hno : ¬ Refused (t.run registry store).2) : t.Straight store (t.run registry store) := by
  rcases hr.getOrCreate_eq t.transport with ⟨hblank, hg⟩ | ⟨hname, number, registry', hg⟩
  · exact Or.inl ⟨hblank, registry, runThrough_of_error (gate_of_error hg)⟩
  · have hpublish :=
      publishThrough_straight t (t.discreet_gate number) (t.beginning registry' store) rfl
    refine straight_runThrough hname (gate_of_ok hg) (hpublish.resolve_left ?_)
    rintro ⟨c, hc⟩
    refine hno ⟨c, ?_⟩
    rwa [run_eq_runThrough, runThrough_of_ok (gate_of_ok hg), ending_log]

/-- A breaker influences a delivery by refusing attempts and in no other way. Where it refuses none,
the delivery is like the same one with breakers from nowhere or with breakers that are switched off,
whatever others do with each registry; and these two are always like retrying the publication
itself. -/
theorem unhindered_alike (t : DeliveryPlan listener) (registry off : Registry listener)
    (store : MemoryStore) (ids : Nat → EntryId) (wallClock : Instant → Timestamp)
    (others : Nat → Registry listener → Registry listener) (hr : registry.Reachable)
    (hoff : off.SwitchedOff t.transport)
    (hothers : ∀ i r, Relation.ReflTransGen Registry.Step r (others i r)) :
    let t' := t.varied ids wallClock others
    (¬ Refused (t.run registry store).2 →
      EndAlike store (t.run registry store) (t'.runThrough nowhere (t'.beginning {} store)) ∧
      EndAlike store (t.run registry store) (t'.run off store)) ∧
    (trimName t.transport ≠ "" →
      EndAlike store (t'.runThrough nowhere (t'.beginning {} store)) (t.runStraight store) ∧
      EndAlike store (t'.run off store) (t.runStraight store)) := by
  intro t'
  have hnowhere : t'.Straight store (t'.runThrough nowhere (t'.beginning {} store)) :=
    t'.straight_of_nowhere store
  have hswitched : t'.Straight store (t'.run off store) :=
    t'.straight_of_switchedOff store hothers hoff
  refine ⟨fun hno => ?_, fun hname => ?_⟩
  · have ht := t.straight_of_not_refused store hr hno
    exact ⟨ht.alike hnowhere, ht.alike hswitched⟩
  · have ht : (t'.varied t.ids t.wallClock t.others).Straight store (t.runStraight store) :=
      straight_runStraight hname
    exact ⟨hnowhere.alike ht, hswitched.alike ht⟩

def switchedOff : Registry Unit := { settings := { defaults := { enabled := false } } }

/-- Ids and the wall clock differ, and others reset all breakers all the time. -/
def otherPlan : DeliveryPlan Unit :=
  refusedPlan.varied (fun i => ⟨i + 7⟩) (fun _ => { nanos := 1 }) fun _ r => (r.resetAll 0).1

theorem unhindered_alike_failing :
    ({} : Registry Unit).Reachable ∧ switchedOff.SwitchedOff refusedPlan.transport ∧
      (∀ i r, Relation.ReflTransGen Registry.Step r (otherPlan.others i r)) ∧
      ¬ Refused (refusedPlan.run {} {}).2 ∧ trimName refusedPlan.transport ≠ "" ∧
      EndAlike {} (refusedPlan.run {} {})
        (otherPlan.runThrough nowhere (otherPlan.beginning {} {})) ∧
      EndAlike {} (refusedPlan.run {} {}) (otherPlan.run switchedOff {}) ∧
      EndAlike {} (otherPlan.run switchedOff {}) (refusedPlan.runStraight {}) ∧
      (refusedPlan.run {} {}).1 = .ok (.deadLettered ⟨0⟩ .maxRetriesExceeded) ∧
      (otherPlan.run switchedOff {}).1 = .ok (.deadLettered ⟨7⟩ .maxRetriesExceeded) := by
  have hr : ({} : Registry Unit).Reachable :=
    Registry.Reachable.created (show Registry.create {} = _ from rfl)
  have hoff : switchedOff.SwitchedOff refusedPlan.transport :=
    Registry.switchedOff_of_create (show Registry.create switchedOff.settings = _ from rfl) rfl
      (fun _ ho => by cases ho) _
  have hothers : ∀ i r, Relation.ReflTransGen Registry.Step r (otherPlan.others i r) :=
    fun _ r => .single (.reset r 0)
  have hlog : attempts (refusedPlan.run {} {}).2.log =
      [.published (.error ⟨.transient, "down", none⟩),
        .published (.error ⟨.transient, "down", none⟩)] := by decide +kernel
  have hno : ¬ Refused (refusedPlan.run {} {}).2 := by
    rintro ⟨c, hc⟩
    simp [hlog] at hc
  have hname : trimName refusedPlan.transport ≠ "" := by decide +kernel
  obtain ⟨halike, hstraight⟩ := unhindered_alike refusedPlan {} switchedOff {} _
    (fun _ => { nanos := 1 }) (fun _ r => (r.resetAll 0).1) hr hoff hothers
  exact ⟨hr, hoff, hothers, hno, hname, (halike hno).1, (halike hno).2, (hstraight hname).2,
    by decide +kernel, by decide +kernel⟩

end DeliveryPlan

end Delivery
