import Delivery.Proofs.Calls.Retrying
import Delivery.Proofs.DeadLetter.Memory
import Delivery.Proofs.Registry.Reach

/-!
# The account of a delivery

A plan says how every publication of a message goes and when the caller asks to stop. The courier
works with the breakers of a registry and with dead letters in memory, and every publication and
every refusal is recorded as it ends. Main statement (`deliver_account`): a delivery comes to
exactly one of its ends, and each end says what has become of the message.
-/

namespace Delivery

inductive Happening where
  | published (result : Except TransportError Unit)
  | refused (refusal : CircuitOpen)
  deriving DecidableEq

def Happening.failure? : Happening → Option (CallError TransportError)
  | published (.ok ()) => none
  | published (.error e) => some (.operation e)
  | refused c => some (.circuitOpen c)

structure Office (listener : Type) where
  registry : Registry listener
  store : MemoryStore
  -- How many publications and requests to breakers there have been, and how many ids.
  publications : Nat := 0
  requests : Nat := 0
  ids : Nat := 0

/-- How a delivery goes on. Publications and numbers count from one, ids and requests from
nought. -/
structure DeliveryPlan (listener : Type) where
  retry : RetryPolicy
  transport : String
  message : Message
  publication : Nat → Invocation TransportError Unit
  chance : Nat → Double
  ids : Nat → EntryId
  wallClock : Instant → Timestamp
  -- What others do with the registry before a request is served.
  others : Nat → Registry listener → Registry listener := fun _ r => r
  start : Instant := 0
  stopAt : Option Instant := none

def CallEvent.publication? : CallEvent Happening → Option (Except TransportError Unit)
  | .happened (.published r) => some r
  | _ => none

def publications (log : List (Instant × CallEvent Happening)) : List (Except TransportError Unit) :=
  log.filterMap (·.2.publication?)

namespace DeliveryPlan

variable {listener : Type} (t : DeliveryPlan listener)

def serve (number : Nat) (request : BreakerRequest) :
    StateM (Scene Happening (Office listener)) BreakerAnswer := fun s =>
  let e := (t.others s.rest.requests s.rest.registry).serve number s.clock request
  (e.answer, { s with
    rest := { s.rest with registry := e.registry, requests := s.rest.requests + 1 } })

/-- The gate of a breaker, at which refusals are recorded. -/
def gate (number : Nat) : Gate (StateM (Scene Happening (Office listener))) :=
  { Gate.ofServe (t.serve number) with
    acquire := do
      let admission ← (Gate.ofServe (t.serve number)).acquire
      if let .error refusal := admission then modify (·.record (.happened (.refused refusal)))
      return admission }

def queue : DeadLetterQueue (StateM (Scene Happening (Office listener))) where
  store := ⟨fun request s =>
    let (reply, store) := MemoryStore.serve s.clock request s.rest.store
    (.ok reply, { s with rest := { s.rest with store } })⟩
  handler := none
  plan := none
  newId s := (t.ids s.rest.ids, { s with rest := { s.rest with ids := s.rest.ids + 1 } })
  wallClock s := (t.wallClock s.clock, s)
  claims := ⟨fun _ => pure (), fun _ => pure (), fun _ => pure ()⟩

def courier : Courier (StateM (Scene Happening (Office listener))) where
  retry := t.retry
  gate name s :=
    match s.rest.registry.getOrCreate name none with
    | .ok (number, registry) => (.ok (t.gate number), { s with rest := { s.rest with registry } })
    | .error e => (.error e, s)
  deadLetters := t.queue

def publish (_ : Message) :
    StateM (Scene Happening (Office listener)) (Except TransportError Unit) := fun s =>
  let o := t.publication (s.rest.publications + 1)
  (o.result, { (s.pass o.lasts o.stops).record (.happened (.published o.result)) with
    rest := { s.rest with publications := s.rest.publications + 1 } })

def run (registry : Registry listener) (store : MemoryStore) :
    Except DeliveryError DeliveryOutcome × Scene Happening (Office listener) :=
  t.courier.deliver (Scene.caller t.chance) ⟨t.transport, t.publish⟩ t.message
    { clock := t.start, stopAt := t.stopAt, rest := { registry, store } }

/-- The dead letter that the message becomes after so many publications and a last failure. -/
def letter (id : EntryId) (reason : Reason) (failure : CallError TransportError)
    (count : Nat) (now : Instant) : Entry where
  id := id
  messageType := t.message.messageType
  payload := t.message.payload
  reason := reason
  failure := some ⟨(describe failure).message, some (describe failure).trace⟩
  enqueuedAt := t.wallClock now
  attempts := min (t.message.attempts + count) (Nat.pow 2 32 - 1)
  metadata := [("error_kind", (Classified.kind failure).tag), ("transport", t.transport)]
  correlationId := t.message.correlationId
  causationId := t.message.causationId
  sourceQueue := t.message.sourceQueue
  replayed := false
  replayedAt := none

def NoneWentWell (log : List (Instant × CallEvent Happening)) : Prop :=
  ∀ r ∈ publications log, r ≠ .ok ()

/-- The attempt that has just ended failed so. -/
def JustFailed (failure : CallError TransportError) (s : Scene Happening (Office listener)) :
    Prop :=
  ∃ log x, s.log = log ++ [(s.clock, .happened x)] ∧ x.failure? = some failure

/-- What each end of a delivery says, given the store before. -/
def Account (store : MemoryStore) (s : Scene Happening (Office listener)) :
    Except DeliveryError DeliveryOutcome → Prop
  | .error (.registry .blankName) =>
    trimName t.transport = "" ∧ s.log = [] ∧ s.rest.store = store
  | .error .cancelled =>
    trimName t.transport ≠ "" ∧ NoneWentWell s.log ∧ s.rest.store = store
  | .ok (.delivered n) =>
    trimName t.transport ≠ "" ∧ s.rest.store = store ∧
      ∃ log, s.log = log ++ [(s.clock, .happened (.published (.ok ())))] ∧ NoneWentWell log ∧
        n = (publications log).length + 1
  | .ok (.deadLettered id reason) =>
    trimName t.transport ≠ "" ∧ NoneWentWell s.log ∧ s.isStopped = false ∧
      ∃ failure, JustFailed failure s ∧
        reason = Reason.ofKind (Classified.kind failure) (t.retry.isRetriable failure) ∧
        s.rest.store = { store with slots := store.slots ++
          [⟨t.letter id reason failure (publications s.log).length s.clock, none⟩] }
  | _ => False

/-- Nothing has come of the message after so many publications. -/
structure Pending (store : MemoryStore) (count : Nat) (s : Scene Happening (Office listener)) :
    Prop where
  store_eq : s.rest.store = store
  ids_eq : s.rest.ids = 0
  count_eq : count = (publications s.log).length
  failed : NoneWentWell s.log

/-- The message has just been taken, at the last of so many publications. -/
structure Taken (store : MemoryStore) (count : Nat) (s : Scene Happening (Office listener)) :
    Prop where
  store_eq : s.rest.store = store
  log_eq : ∃ log, s.log = log ++ [(s.clock, .happened (.published (.ok ())))] ∧
    NoneWentWell log ∧ count = (publications log).length + 1

variable {t} {store : MemoryStore} {s s' : Scene Happening (Office listener)} {number count : Nat}

/-! ### Steps -/

theorem publications_concat (log : List (Instant × CallEvent Happening)) (now : Instant)
    (e : CallEvent Happening) :
    publications (log ++ [(now, e)]) = publications log ++ e.publication?.toList := by
  unfold publications
  rw [List.filterMap_append]
  cases h : e.publication? <;> simp [h]

theorem Pending.congr (h : Pending store count s) (hstore : s'.rest.store = s.rest.store)
    (hids : s'.rest.ids = s.rest.ids) (hlog : publications s'.log = publications s.log) :
    Pending store count s' where
  store_eq := hstore.trans h.store_eq
  ids_eq := hids.trans h.ids_eq
  count_eq := by rw [hlog, h.count_eq]
  failed := by
    unfold NoneWentWell
    rw [hlog]
    exact h.failed

theorem Pending.publish (h : Pending store count s) :
    Runner.ofState.Yields (t.publish t.message) s fun r s' =>
      match r with
      | .ok _ => Taken store (count + 1) s'
      | .error e => Pending store (count + 1) s' ∧ JustFailed (.operation e) s' := by
  rw [Runner.yields_ofState]
  dsimp only [DeliveryPlan.publish]
  split
  · rename_i u hr
    rw [hr]
    exact ⟨h.store_eq, s.log, rfl, h.failed, by rw [h.count_eq]⟩
  · rename_i e hr
    rw [hr]
    have hlog (now : Instant) : publications (s.log ++ [(now, .happened (.published (.error e)))])
        = publications s.log ++ [.error e] := publications_concat ..
    refine ⟨⟨h.store_eq, h.ids_eq, ?_, ?_⟩, ⟨s.log, _, rfl, rfl⟩⟩
    · show _ = (publications (s.log ++ [_])).length
      rw [hlog, List.length_append, ← h.count_eq]
      rfl
    · show ∀ r ∈ publications (s.log ++ [_]), r ≠ .ok ()
      rw [hlog]
      intro r hr
      rcases List.mem_append.mp hr with hr | hr
      · exact h.failed r hr
      · obtain rfl : r = .error e := by simpa using hr
        intro hno
        cases hno

theorem serve_yields {request : BreakerRequest}
    {Q : BreakerAnswer → Scene Happening (Office listener) → Prop}
    (h : ∀ a registry requests, Q a { s with rest := { s.rest with registry, requests } }) :
    Runner.ofState.Yields (t.serve number request) s Q := h _ _ _

theorem report_yields (request : BreakerRequest)
    {Q : Unit → Scene Happening (Office listener) → Prop}
    (h : ∀ registry requests, Q () { s with rest := { s.rest with registry, requests } }) :
    Runner.ofState.Yields (discard (t.serve number request)) s Q := h _ _

theorem Pending.acquire (h : Pending store count s) :
    Runner.ofState.Yields (t.gate number).acquire s fun admission s' =>
      match admission with
      | .ok _ => Pending store count s'
      | .error c => Pending store count s' ∧ JustFailed (.circuitOpen c) s' := by
  have hserve : Runner.ofState.Yields (Gate.ofServe (t.serve number)).acquire s fun _ s' =>
      Pending store count s' := by
    refine Runner.yields_bind.mpr (serve_yields ?_)
    intro a registry requests
    split <;> exact Runner.yields_pure.mpr (h.congr rfl rfl rfl)
  refine Runner.yields_bind.mpr (hserve.mono ?_)
  intro admission s₁ h₁
  cases admission with
  | ok u => exact h₁
  | error c =>
    refine ⟨h₁.congr rfl rfl ?_, s₁.log, _, rfl, rfl⟩
    show publications (s₁.log ++ [_]) = _
    rw [publications_concat]
    exact List.append_nil _

theorem Pending.pause (h : Pending store count s) {chance : Nat → Double} {d : Duration} :
    Runner.ofState.Yields ((Scene.caller chance).pause d) s fun _ s' => Pending store count s' := by
  refine h.congr rfl rfl ?_
  show publications (s.log ++ [_]) = _
  rw [publications_concat]
  exact List.append_nil _

/-- An attempt at a pending message takes it, or leaves it pending after a failure. -/
theorem Pending.attempt (h : Pending store count s) :
    Runner.ofState.carrying.Yields ((t.gate number).lift.guard (Scene.caller t.chance).lift (do
        modify (· + 1)
        StateT.lift (t.publish t.message))) (count, s) fun r p =>
      match r with
      | .ok _ => Taken store p.1 p.2
      | .error e => Pending store p.1 p.2 ∧ (e = .cancelled ∨ JustFailed e p.2) := by
  refine Gate.guard_yields (Runner.carrying_lift.mpr (h.acquire.mono ?_))
  intro admission s₁ h₁
  cases admission with
  | error c => exact ⟨h₁.1, Or.inr h₁.2⟩
  | ok u =>
    refine Runner.yields_bind.mpr (Runner.carrying_modify.mpr (Runner.carrying_lift.mpr ?_))
    refine (Pending.publish (t := t) h₁).mono ?_
    intro r s₂ h₂
    cases r with
    | ok u =>
      refine Runner.carrying_lift.mpr (report_yields .recordSuccess ?_)
      intro registry requests
      exact ⟨h₂.store_eq, h₂.log_eq⟩
    | error e =>
      refine Runner.carrying_lift.mpr ?_
      refine ⟨fun _ => ⟨h₂.1, Or.inl rfl⟩, fun _ _ => ?_⟩
      refine Runner.carrying_lift.mpr (report_yields (.recordFailure _) ?_)
      intro registry requests
      exact ⟨h₂.1.congr rfl rfl rfl, Or.inr h₂.2⟩

/-! ### Publishing with retries -/

def Settled (store : MemoryStore) (count : Nat) (s : Scene Happening (Office listener)) :
    Except (CallError (CallError TransportError)) Unit → Prop
  | .ok _ => Taken store count s
  | .error .cancelled => Pending store count s
  | .error (.operation e) =>
    Pending store count s ∧ JustFailed e s ∧ s.isStopped = false ∧ e ≠ .cancelled
  | .error (.circuitOpen _) => False

theorem invariant (t : DeliveryPlan listener) (store : MemoryStore) (number : Nat) :
    RetryPolicy.Invariant (Runner.ofState (σ := Scene Happening (Office listener))).carrying
      t.retry (Scene.caller t.chance).lift
      ((t.gate number).lift.guard (Scene.caller t.chance).lift (do
        modify (· + 1)
        StateT.lift (t.publish t.message)))
      (fun _ p => Pending store p.1 p.2)
      (fun _ e p => Pending store p.1 p.2 ∧ (e = .cancelled ∨ JustFailed e p.2))
      (fun r p => Settled store p.1 p.2 r) where
  call := by
    intro n p h
    refine (Pending.attempt (t := t) h).mono ?_
    intro r p' h'
    cases r with
    | ok u => exact h'
    | error e => exact h'
  stop := by
    intro n e p h
    exact Runner.carrying_lift.mpr fun _ => h.1
  final := by
    rintro n e p ⟨hp, hf⟩
    refine Runner.carrying_lift.mpr fun hs hc _ => ?_
    have hne : e ≠ .cancelled := by
      rintro rfl
      cases hc
    exact ⟨hp, hf.resolve_left hne, hs, hne⟩
  again := by
    intro n e p h
    refine Runner.carrying_lift.mpr fun _ _ _ => ?_
    refine Runner.carrying_lift.mpr (Runner.yields_ofState.mpr (Runner.carrying_lift.mpr ?_))
    have hdrawn : Pending store p.1 ((Scene.caller t.chance).sample p.2).2 := h.1.congr rfl rfl rfl
    refine hdrawn.pause.mono ?_
    intro cut s' h'
    exact ⟨fun _ => h', fun _ => h'⟩

theorem publish_settled (t : DeliveryPlan listener) (h : Pending store 0 s) (number : Nat) :
    Runner.ofState.Yields (t.courier.publish (Scene.caller t.chance) (t.gate number)
      ⟨t.transport, t.publish⟩ t.message) s fun r s' =>
        ∃ e, Settled store r.2 s' e ∧ r.1 = e.mapError CallError.flatten := by
  unfold Courier.publish
  refine Runner.yields_bind.mpr ?_
  exact ⟨_, (invariant t store number).execute (0, s) h, rfl⟩

/-! ### Delivering -/

theorem metadata_eq (name tag : String) :
    Metadata.ofList [("transport", name), ("error_kind", tag)]
      = [("error_kind", tag), ("transport", name)] := by
  have hlt : "error_kind" < "transport" := by decide
  simp [Metadata.ofList, Metadata.insert, hlt]

theorem deadLetter_run (t : DeliveryPlan listener) (failure : CallError TransportError)
    (s : Scene Happening (Office listener)) (count : Nat) :
    let reason := Reason.ofKind (Classified.kind failure) (t.retry.isRetriable failure)
    let letter := t.letter (t.ids s.rest.ids) reason failure count s.clock
    (t.courier.deadLetter ⟨t.transport, t.publish⟩ t.message count failure).run s =
      (.ok (.deadLettered (t.ids s.rest.ids) reason), { s with
        rest := { s.rest with
          ids := s.rest.ids + 1
          store := { s.rest.store with
            slots := MemoryStore.insertSlot ⟨letter, none⟩ s.rest.store.slots } } }) := by
  unfold letter
  rw [← metadata_eq]
  rfl

theorem Pending.deadLetter (h : Pending store count s) {failure : CallError TransportError}
    (hname : trimName t.transport ≠ "") (hf : JustFailed failure s) (hs : s.isStopped = false)
    (hfresh : ∀ slot ∈ store.slots, slot.entry.id ≠ t.ids 0) :
    Runner.ofState.Yields
      (t.courier.deadLetter ⟨t.transport, t.publish⟩ t.message count failure).run s fun r s' =>
      t.Account store s' (r.mapError .deadLetter) := by
  obtain ⟨hstore, hids, hcount, hfailed⟩ := h
  rw [Runner.yields_ofState, deadLetter_run, hstore, hids, MemoryStore.insertSlot_eq_append hfresh]
  exact ⟨hname, hfailed, hs, failure, hf, rfl, by rw [hcount]⟩

theorem gate_of_error {name : String} {e : RegistryError}
    (h : s.rest.registry.getOrCreate name none = .error e) :
    t.courier.gate name s = (.error e, s) := by
  dsimp only [courier]
  rw [h]

theorem gate_of_ok {name : String} {registry : Registry listener}
    (h : s.rest.registry.getOrCreate name none = .ok (number, registry)) :
    t.courier.gate name s =
      (.ok (t.gate number), { s with rest := { s.rest with registry } }) := by
  dsimp only [courier]
  rw [h]

/-- A delivery comes to exactly one of its ends, whatever the policy, the registry, the publications
and the caller do: the name is blank, the message was taken, the delivery was cancelled, or the
message has become a dead letter. -/
theorem deliver_account (t : DeliveryPlan listener) (registry : Registry listener)
    (store : MemoryStore) (hr : registry.Reachable)
    (hfresh : ∀ slot ∈ store.slots, slot.entry.id ≠ t.ids 0) :
    t.Account store (t.run registry store).2 (t.run registry store).1 := by
  show Runner.ofState.Yields (t.courier.deliver _ _ _) _ fun r s => t.Account store s r
  unfold Courier.deliver
  refine Runner.yields_bind.mpr ?_
  rw [Runner.yields_ofState]
  rcases hr.getOrCreate_eq t.transport with ⟨hname, hg⟩ | ⟨hname, number, registry', hg⟩
  · rw [gate_of_error hg]
    exact Runner.yields_pure.mpr ⟨hname, rfl, rfl⟩
  · rw [gate_of_ok hg]
    have hstart : Pending store 0 (Scene.mk t.start t.stopAt 0 []
        (Office.mk registry' store 0 0 0)) := ⟨rfl, rfl, rfl, fun r hr => by cases hr⟩
    refine Runner.yields_bind.mpr ((t.publish_settled hstart number).mono ?_)
    rintro ⟨_, count⟩ s ⟨e, he, rfl⟩
    match e, he with
    | .ok _, he =>
      obtain ⟨hstore, log, hlog, hfailed, hcount⟩ := he
      exact Runner.yields_pure.mpr ⟨hname, hstore, log, hlog, hfailed, hcount⟩
    | .error .cancelled, he => exact Runner.yields_pure.mpr ⟨hname, he.failed, he.store_eq⟩
    | .error (.operation f), ⟨hp, hf, hs, hne⟩ =>
      have hletter := hp.deadLetter hname hf hs hfresh
      cases f with
      | cancelled => exact absurd rfl hne
      | circuitOpen c => exact Runner.yields_bind.mpr hletter
      | operation f => exact Runner.yields_bind.mpr hletter

/-- The first publication fails and opens the circuit, which refuses the second attempt. -/
def refusedPlan : DeliveryPlan Unit where
  retry := .retrying { maxAttempts := 2, backoff := ⟨fun _ _ => .ok 10, ""⟩ }
  transport := " Orders "
  message := { messageType := "order.placed", attempts := 3 }
  publication _ := { lasts := 5, result := .error ⟨.transient, "down", none⟩ }
  chance _ := .two
  ids i := ⟨i⟩
  wallClock now := { nanos := (now : Nat) }

def touchyRegistry : Registry Unit := { settings := { defaults := { failureThreshold := 1 } } }

theorem deliver_account_refused :
    touchyRegistry.Reachable ∧ (∀ slot ∈ ([] : List Slot), slot.entry.id ≠ refusedPlan.ids 0) ∧
      refusedPlan.Account {} (refusedPlan.run touchyRegistry {}).2
        (refusedPlan.run touchyRegistry {}).1 ∧
      (refusedPlan.run touchyRegistry {}).1 = .ok (.deadLettered ⟨0⟩ .circuitBreakerOpen) := by
  have hr : touchyRegistry.Reachable :=
    Registry.Reachable.created (show Registry.create touchyRegistry.settings = _ from rfl)
  have hfresh : ∀ slot ∈ ([] : List Slot), slot.entry.id ≠ refusedPlan.ids 0 := by simp
  exact ⟨hr, hfresh, deliver_account refusedPlan touchyRegistry {} hr hfresh, by decide +kernel⟩

end DeliveryPlan

end Delivery
