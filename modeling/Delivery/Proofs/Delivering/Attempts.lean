import Delivery.Proofs.Calls.Unrolled
import Delivery.Proofs.Delivering.Account

/-!
# The attempts of a delivery

An attempt is a publication or a refusal, and the log has one entry for each. What an attempt does
is said once, for every gate that touches nothing but the breakers (`Gate.Discreet.attempt`), and
what a delivery does after its last attempt is a function of how that ended (`ending`).
-/

namespace Delivery

variable {listener : Type}

def CallEvent.happening? : CallEvent Happening → Option Happening
  | .happened x => some x
  | .paused _ => none

/-- The attempts that a log records. -/
def attempts (log : List (Instant × CallEvent Happening)) : List Happening :=
  log.filterMap (·.2.happening?)

@[simp] theorem attempts_concat (log : List (Instant × CallEvent Happening)) (now : Instant)
    (x : Happening) : attempts (log ++ [(now, .happened x)]) = attempts log ++ [x] := by
  unfold attempts
  rw [List.filterMap_append]
  rfl

@[simp] theorem attempts_paused (log : List (Instant × CallEvent Happening)) (now : Instant)
    (d : Duration) : attempts (log ++ [(now, .paused d)]) = attempts log := by
  unfold attempts
  rw [List.filterMap_append]
  exact List.append_nil _

/-- Where a courier has its gates from. -/
abbrev Breakers (listener : Type) :=
  String → StateM (Scene Happening (Office listener))
    (Except RegistryError (Gate (StateM (Scene Happening (Office listener)))))

/-- A scene as it is for those who do not see its breakers. -/
def Scene.bare (s : Scene Happening (Office listener)) : Scene Happening (Office listener) :=
  { s with rest := { s.rest with registry := {}, requests := 0 } }

@[simp] theorem Scene.isStopped_bare (s : Scene Happening (Office listener)) :
    s.bare.isStopped = s.isStopped := rfl

theorem Scene.cancelled_yields {τ σ : Type} {chance : Nat → Double} {s : Scene τ σ}
    {Q : Bool → Scene τ σ → Prop} :
    Runner.ofState.Yields (Scene.caller chance).cancelled s Q ↔ Q s.isStopped s := Iff.rfl

/-! ### Gates -/

namespace Gate

/-- The gate touches nothing but the breakers, and records what it refuses. -/
structure Discreet (g : Gate (StateM (Scene Happening (Office listener)))) : Prop where
  acquire : ∀ s, ((g.acquire s).1 = .ok () ∧ (g.acquire s).2.bare = s.bare) ∨
    ∃ c, (g.acquire s).1 = .error c ∧
      (g.acquire s).2.bare = s.bare.record (.happened (.refused c))
  success : ∀ s, (g.recordSuccess s).2.bare = s.bare
  failure : ∀ incident s, (g.recordFailure incident s).2.bare = s.bare

/-- What a guarded call makes of the result of a publication. -/
def reported (stopped : Bool) : Except TransportError Unit → Except (CallError TransportError) Unit
  | .ok v => .ok v
  | .error e => if isCancellation e || stopped then .error .cancelled else .error (.operation e)

theorem acquire_ofServe {σ : Type} (serve : BreakerRequest → StateM σ BreakerAnswer) (s : σ) :
    (Gate.ofServe serve).acquire s = (match (serve .acquire s).1 with
      | .refused c => .error c
      | _ => .ok (), (serve .acquire s).2) := by
  dsimp only [Gate.ofServe, bind, StateT.bind]
  rcases serve .acquire s with ⟨a, s'⟩
  cases a <;> rfl

end Gate

namespace DeliveryPlan

variable (t : DeliveryPlan listener) (number : Nat)

theorem gate_acquire (s : Scene Happening (Office listener)) :
    (t.gate number).acquire s =
      match ((Gate.ofServe (t.serve number)).acquire s).1 with
      | .error c => (.error c, ((Gate.ofServe (t.serve number)).acquire s).2.record
          (.happened (.refused c)))
      | .ok u => (.ok u, ((Gate.ofServe (t.serve number)).acquire s).2) := by
  show (_, _) = _
  cases ((Gate.ofServe (t.serve number)).acquire s).1 <;> rfl

theorem discreet_gate : (t.gate number).Discreet where
  acquire s := by
    have hbare : ((Gate.ofServe (t.serve number)).acquire s).2.bare = s.bare := by
      rw [Gate.acquire_ofServe]
      rfl
    rw [gate_acquire]
    cases ((Gate.ofServe (t.serve number)).acquire s).1 with
    | ok u => exact Or.inl ⟨rfl, hbare⟩
    | error c => exact Or.inr ⟨c, rfl, congrArg (·.record (.happened (.refused c))) hbare⟩
  success _ := rfl
  failure _ _ := rfl

theorem publish_result (message : Message) (s : Scene Happening (Office listener)) :
    (t.publish message s).1 = (t.publish message s.bare).1 := rfl

theorem publish_bare (message : Message) (s : Scene Happening (Office listener)) :
    (t.publish message s).2.bare = (t.publish message s.bare).2 := rfl

/-- One attempt of a delivery, which counts its publication. -/
def attempt (g : Gate (StateM (Scene Happening (Office listener)))) :
    StateT Nat (StateM (Scene Happening (Office listener)))
      (Except (CallError TransportError) Unit) :=
  g.lift.guard (Scene.caller t.chance).lift do
    modify (· + 1)
    StateT.lift (t.publish t.message)

end DeliveryPlan

variable {t : DeliveryPlan listener} {g : Gate (StateM (Scene Happening (Office listener)))}

/-- An attempt is refused, or it is a publication and ends as that does. -/
theorem Gate.Discreet.attempt (hg : g.Discreet) (t : DeliveryPlan listener) (count : Nat)
    (s : Scene Happening (Office listener)) :
    Runner.ofState.carrying.Yields (t.attempt g) (count, s) fun r p =>
      (∃ c, r = .error (.circuitOpen c) ∧ p.1 = count ∧
        p.2.bare = s.bare.record (.happened (.refused c))) ∨
      (r = Gate.reported p.2.isStopped (t.publish t.message s.bare).1 ∧ p.1 = count + 1 ∧
        p.2.bare = (t.publish t.message s.bare).2) := by
  refine Gate.guard_yields (Runner.carrying_lift.mpr ?_)
  rw [Runner.yields_ofState]
  rcases hg.acquire s with ⟨hr, hbare⟩ | ⟨c, hr, hbare⟩
  · rw [hr]
    have hpublish : (t.publish t.message (g.acquire s).2).2.bare =
        (t.publish t.message s.bare).2 := by
      rw [DeliveryPlan.publish_bare, hbare]
    have hresult : (t.publish t.message (g.acquire s).2).1 = (t.publish t.message s.bare).1 := by
      rw [DeliveryPlan.publish_result, hbare]
    refine Runner.yields_bind.mpr (Runner.carrying_modify.mpr (Runner.carrying_lift.mpr ?_))
    rw [Runner.yields_ofState]
    cases hp : (t.publish t.message (g.acquire s).2).1 with
    | ok u =>
      refine Runner.carrying_lift.mpr (Or.inr ⟨?_, rfl, (hg.success _).trans hpublish⟩)
      rw [← hresult, hp]
      rfl
    | error e =>
      refine Runner.carrying_lift.mpr (Scene.cancelled_yields.mpr ⟨?_, ?_⟩)
      · intro hcut
        refine Or.inr ⟨?_, rfl, hpublish⟩
        rw [← hresult, hp, Gate.reported, if_pos (by simpa using hcut)]
      · intro hcancel hstop
        refine Runner.carrying_lift.mpr (Or.inr ⟨?_, rfl, (hg.failure _ _).trans hpublish⟩)
        have hstopped : (g.recordFailure (.ofFailure e)
            (t.publish t.message (g.acquire s).2).2).2.isStopped = false := by
          rw [← Scene.isStopped_bare, hg.failure]
          exact hstop
        show _ = Gate.reported (Scene.isStopped (g.recordFailure _ _).2) _
        rw [hstopped, ← hresult, hp, Gate.reported, hcancel]
        rfl
  · rw [hr]
    exact Or.inl ⟨c, rfl, rfl, hbare⟩

/-- An attempt makes the last entry of the log, and fails as that entry has it. -/
theorem Gate.Discreet.attempt_log (hg : g.Discreet) (t : DeliveryPlan listener) (count : Nat)
    (s : Scene Happening (Office listener)) :
    Runner.ofState.carrying.Yields (t.attempt g) (count, s) fun r p =>
      ∃ x, p.2.log = s.log ++ [(p.2.clock, .happened x)] ∧
        ∀ e, r = .error e → e = .cancelled ∨ x.failure? = some e := by
  refine (hg.attempt t count s).mono ?_
  rintro r p (⟨c, rfl, -, hbare⟩ | ⟨rfl, -, hbare⟩)
  · have hlog : p.2.bare.log = s.log ++ [(p.2.bare.clock, .happened (.refused c))] := by
      rw [hbare]
      rfl
    refine ⟨.refused c, hlog, ?_⟩
    rintro e he
    cases he
    exact Or.inr rfl
  · have hlog : p.2.bare.log = s.log ++
        [(p.2.bare.clock, .happened (.published (t.publish t.message s.bare).1))] := by
      rw [hbare]
      rfl
    refine ⟨.published (t.publish t.message s.bare).1, hlog, ?_⟩
    intro e he
    cases hr : (t.publish t.message s.bare).1 with
    | ok u =>
      rw [hr] at he
      cases he
    | error f =>
      rw [hr, Gate.reported] at he
      split at he
      · cases he
        exact Or.inl rfl
      · cases he
        exact Or.inr rfl

/-! ### After the last attempt -/

namespace DeliveryPlan

variable (t)

/-- The scene after a message has become a dead letter. -/
def archive (failure : CallError TransportError) (count : Nat)
    (s : Scene Happening (Office listener)) : Scene Happening (Office listener) :=
  let reason := Reason.ofKind (Classified.kind failure) (t.retry.isRetriable failure)
  { s with
    rest := { s.rest with
      ids := s.rest.ids + 1
      store := { s.rest.store with
        slots := MemoryStore.insertSlot
          ⟨t.letter (t.ids s.rest.ids) reason failure count s.clock, none⟩ s.rest.store.slots } } }

theorem find?_archive (failure : CallError TransportError) (count : Nat)
    (s : Scene Happening (Office listener)) :
    (t.archive failure count s).rest.store.find? (t.ids s.rest.ids) =
      some ⟨t.letter (t.ids s.rest.ids)
        (Reason.ofKind (Classified.kind failure) (t.retry.isRetriable failure)) failure count
        s.clock, none⟩ :=
  MemoryStore.find?_insertSlot.trans (if_pos rfl)

/-- How a delivery ends, given how its publication with retries did. -/
def ending (s : Scene Happening (Office listener)) :
    Except (CallError TransportError) Unit × Nat →
      Except DeliveryError DeliveryOutcome × Scene Happening (Office listener)
  | (.ok (), count) => (.ok (.delivered count), s)
  | (.error .cancelled, _) => (.error .cancelled, s)
  | (.error failure, count) =>
    (.ok (.deadLettered (t.ids s.rest.ids)
      (Reason.ofKind (Classified.kind failure) (t.retry.isRetriable failure))),
     t.archive failure count s)

/-- The same courier with breakers from elsewhere. -/
def through (breakers : Breakers listener) :
    Courier (StateM (Scene Happening (Office listener))) where
  retry := t.retry
  gate := breakers
  deadLetters := t.queue

def beginning (registry : Registry listener) (store : MemoryStore) :
    Scene Happening (Office listener) :=
  { clock := t.start, stopAt := t.stopAt, rest := { registry, store } }

/-- The same delivery with breakers from elsewhere. -/
def runThrough (breakers : Breakers listener) (s : Scene Happening (Office listener)) :
    Except DeliveryError DeliveryOutcome × Scene Happening (Office listener) :=
  (t.through breakers).deliver (Scene.caller t.chance) ⟨t.transport, t.publish⟩ t.message s

/-- The publication of the message with retries, through one gate. -/
def publishThrough (g : Gate (StateM (Scene Happening (Office listener)))) :
    StateM (Scene Happening (Office listener)) (Except (CallError TransportError) Unit × Nat) :=
  t.courier.publish (Scene.caller t.chance) g ⟨t.transport, t.publish⟩ t.message

theorem run_eq_runThrough (registry : Registry listener) (store : MemoryStore) :
    t.run registry store = t.runThrough t.courier.gate (t.beginning registry store) := rfl

variable {t} {breakers : Breakers listener} {s s' : Scene Happening (Office listener)}

theorem runThrough_of_error {e : RegistryError} (h : breakers t.transport s = (.error e, s')) :
    t.runThrough breakers s = (.error (.registry e), s') := by
  unfold runThrough Courier.deliver
  dsimp only [through]
  rw [StateM.bind_run, h]
  rfl

theorem runThrough_of_ok (h : breakers t.transport s = (.ok g, s')) :
    t.runThrough breakers s = t.ending (t.publishThrough g s').2 (t.publishThrough g s').1 := by
  have hgate : (t.through breakers).gate (Transport.mk t.transport t.publish).name s =
      (.ok g, s') := h
  have hpublish : (t.through breakers).publish (Scene.caller t.chance) g ⟨t.transport, t.publish⟩
      t.message = t.publishThrough g := rfl
  unfold runThrough Courier.deliver
  rw [StateM.bind_run, hgate]
  dsimp only
  rw [StateM.bind_run, hpublish]
  rcases t.publishThrough g s' with ⟨⟨r, count⟩, s₁⟩
  have hletter (failure : CallError TransportError) :
      ((t.through breakers).deadLetter ⟨t.transport, t.publish⟩ t.message count failure).run s₁ =
        (.ok (.deadLettered (t.ids s₁.rest.ids)
          (Reason.ofKind (Classified.kind failure) (t.retry.isRetriable failure))),
         t.archive failure count s₁) := t.deadLetter_run failure s₁ count
  match r with
  | .ok () => rfl
  | .error .cancelled => rfl
  | .error (.circuitOpen c) =>
    dsimp only
    rw [StateM.bind_run, hletter]
    rfl
  | .error (.operation e) =>
    dsimp only
    rw [StateM.bind_run, hletter]
    rfl

theorem ending_deadLettered {id : EntryId} {reason : Reason}
    {r : Except (CallError TransportError) Unit × Nat}
    (h : (t.ending s r).1 = .ok (.deadLettered id reason)) :
    ∃ failure, r.1 = .error failure ∧ failure ≠ .cancelled ∧ id = t.ids s.rest.ids ∧
      reason = Reason.ofKind (Classified.kind failure) (t.retry.isRetriable failure) ∧
      t.ending s r = (.ok (.deadLettered id reason), t.archive failure r.2 s) := by
  rcases r with ⟨⟨⟩ | ⟨⟩, count⟩
  · rename_i failure
    cases failure with
    | cancelled => cases h
    | circuitOpen c =>
      cases h
      exact ⟨.circuitOpen c, rfl, by simp, rfl, rfl, rfl⟩
    | operation e =>
      cases h
      exact ⟨.operation e, rfl, by simp, rfl, rfl, rfl⟩
  · cases h

/-- What becomes of a run does not depend on how its breakers are had, but for its gate. -/
theorem run_cases (t : DeliveryPlan listener) (registry : Registry listener)
    (store : MemoryStore) :
    (∃ e, registry.getOrCreate t.transport none = .error e ∧
      t.run registry store = (.error (.registry e), t.beginning registry store)) ∨
    ∃ number registry', registry.getOrCreate t.transport none = .ok (number, registry') ∧
      t.run registry store =
        t.ending (t.publishThrough (t.gate number) (t.beginning registry' store)).2
          (t.publishThrough (t.gate number) (t.beginning registry' store)).1 := by
  cases hg : registry.getOrCreate t.transport none with
  | error e => exact Or.inl ⟨e, rfl, runThrough_of_error (gate_of_error hg)⟩
  | ok p =>
    obtain ⟨number, registry'⟩ := p
    exact Or.inr ⟨number, registry', rfl, runThrough_of_ok (gate_of_ok hg)⟩

/-! ### What publishing leaves alone -/

/-- The store and the ids are as before, and all publications are counted. -/
structure Untouched (before : Scene Happening (Office listener))
    (p : Nat × Scene Happening (Office listener)) : Prop where
  store_eq : p.2.rest.store = before.rest.store
  ids_eq : p.2.rest.ids = before.rest.ids
  count_eq : p.1 = p.2.rest.publications

theorem Untouched.attempt (hg : g.Discreet) (t : DeliveryPlan listener)
    {p : Nat × Scene Happening (Office listener)} (h : Untouched s p) :
    Runner.ofState.carrying.Yields (t.attempt g) p fun _ p' => Untouched s p' := by
  refine (hg.attempt t p.1 p.2).mono ?_
  rintro r p' (⟨c, -, hp, hbare⟩ | ⟨-, hp, hbare⟩)
  · have hrest : p'.2.bare.rest = p.2.bare.rest := by
      rw [hbare]
      rfl
    exact ⟨(congrArg Office.store hrest).trans h.store_eq,
      (congrArg Office.ids hrest).trans h.ids_eq,
      (hp.trans h.count_eq).trans (congrArg Office.publications hrest).symm⟩
  · have hrest : p'.2.bare.rest = (t.publish t.message p.2.bare).2.rest := by rw [hbare]
    exact ⟨(congrArg Office.store hrest).trans h.store_eq,
      (congrArg Office.ids hrest).trans h.ids_eq,
      (hp.trans (congrArg (· + 1) h.count_eq)).trans (congrArg Office.publications hrest).symm⟩

theorem untouched (t : DeliveryPlan listener) (hg : g.Discreet)
    (s : Scene Happening (Office listener)) :
    RetryPolicy.Invariant (Runner.ofState (σ := Scene Happening (Office listener))).carrying
      t.retry (Scene.caller t.chance).lift (t.attempt g)
      (fun _ p => Untouched s p) (fun _ _ p => Untouched s p) (fun _ p => Untouched s p) where
  call := by
    intro n p h
    refine (h.attempt hg t).mono ?_
    rintro (e | u) p' h' <;> exact h'
  stop _ _ _ h := Runner.carrying_lift.mpr fun _ => h
  final _ _ _ h := Runner.carrying_lift.mpr fun _ _ _ => h
  again := by
    rintro n e p ⟨hstore, hids, hcount⟩
    refine Runner.carrying_lift.mpr fun _ _ _ => ?_
    refine Runner.carrying_lift.mpr (Runner.yields_ofState.mpr (Runner.carrying_lift.mpr ?_))
    exact ⟨fun _ => ⟨hstore, hids, hcount⟩, fun _ => ⟨hstore, hids, hcount⟩⟩

theorem publishThrough_untouched (t : DeliveryPlan listener) (hg : g.Discreet)
    (hs : s.rest.publications = 0) :
    Untouched s ((t.publishThrough g s).1.2, (t.publishThrough g s).2) :=
  (untouched t hg s).execute (0, s) ⟨rfl, rfl, hs.symm⟩

/-- The message was stored as a dead letter under the first id, and this was said; or nothing was
stored. -/
def Stored (t : DeliveryPlan listener) (store : MemoryStore)
    (x : Except DeliveryError DeliveryOutcome × Scene Happening (Office listener)) : Prop :=
  (∃ reason failure, x.1 = .ok (.deadLettered (t.ids 0) reason) ∧ x.2.rest.ids = 1 ∧
    x.2.rest.store = { store with
      slots := MemoryStore.insertSlot
        ⟨t.letter (t.ids 0) reason failure x.2.rest.publications x.2.clock, none⟩ store.slots }) ∨
  ((∀ id reason, x.1 ≠ .ok (.deadLettered id reason)) ∧ x.2.rest.ids = 0 ∧ x.2.rest.store = store)

theorem archive_stored (failure : CallError TransportError) (hids : s.rest.ids = 0) :
    t.Stored s.rest.store (.ok (.deadLettered (t.ids s.rest.ids)
      (Reason.ofKind (Classified.kind failure) (t.retry.isRetriable failure))),
      t.archive failure s.rest.publications s) := by
  unfold archive
  rw [hids]
  exact Or.inl ⟨_, failure, rfl, rfl, rfl⟩

theorem ending_stored (hids : s.rest.ids = 0) (r : Except (CallError TransportError) Unit) :
    t.Stored s.rest.store (t.ending s (r, s.rest.publications)) := by
  match r with
  | .ok () => exact Or.inr ⟨nofun, hids, rfl⟩
  | .error .cancelled => exact Or.inr ⟨nofun, hids, rfl⟩
  | .error (.circuitOpen c) => exact archive_stored (.circuitOpen c) hids
  | .error (.operation e) => exact archive_stored (.operation e) hids

theorem run_stored (t : DeliveryPlan listener) (registry : Registry listener)
    (store : MemoryStore) : t.Stored store (t.run registry store) := by
  rcases t.run_cases registry store with ⟨e, -, heq⟩ | ⟨number, registry', -, heq⟩
  · rw [heq]
    exact Or.inr ⟨nofun, rfl, rfl⟩
  · obtain ⟨hstore, hids, hcount⟩ : Untouched (t.beginning registry' store) _ :=
      t.publishThrough_untouched (t.discreet_gate number) rfl
    have hend := ending_stored (t := t) hids
      (t.publishThrough (t.gate number) (t.beginning registry' store)).1.1
    rw [hstore, ← hcount] at hend
    rwa [heq]

end DeliveryPlan

end Delivery
