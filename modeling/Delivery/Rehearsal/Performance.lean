import Delivery.DeadLetter.PurgeLoop
import Delivery.Rehearsal.Calls
import Delivery.Rehearsal.Stage

/-!
# Performing steps

Every step is a task on the timeline; steps within steps, and what is left to do for others, are
jobs. The rules of deliveries, retries, replays and purges are those of the library, with the stage
as their surroundings.
-/

namespace Delivery.Rehearsal

inductive Job (ν : Type) where
  | step (s : Step ν)
  | release (id : EntryId)
  | cancel (token : Nat) (deadline : Instant)
  | purge (start : Instant) (round token : Nat)

abbrev Act (ν : Type) := Play (Stage ν) (Job ν) (Result ν)

variable {ν : Type}

def change {α : Type} (f : Stage ν → α × Stage ν) : Act ν α := do
  let (a, s) := f (← request .look)
  request (.put s)
  return a

def adjust (f : Stage ν → Stage ν) : Act ν Unit := change fun s => ((), f s)

def inspect {α : Type} (f : Stage ν → α) : Act ν α := do return f (← request .look)

def perform (s : Step ν) : Act ν (Result ν) := do
  return (← request (.together [.step s])).head?.getD .nothing

def carryOut (o : CallOutcome ν) (token : Option Nat) : Act ν (Except ScriptedFailure ν) := do
  o.during.forM fun s => do
    let r ← perform s
    adjust (·.record (.during r))
  o.finish token

/-! ### Breakers -/

def serve (place : Handle) (r : BreakerRequest) : Act ν BreakerAnswer := do
  let now ← request .now
  change (·.serve now place r)

def gateAt (place : Handle) : Gate (Act ν) := .ofServe (serve place)

def placeFor (name : String) (settings : Option BreakerSettings) :
    Act ν (Except RegistryError Handle) :=
  change fun s => match s.breakerFor name settings with
    | .ok (place, s) => (.ok place, s)
    | .error e => (.error e, s)

def gateFor (name : String) : Act ν (Except RegistryError (Gate (Act ν))) := do
  return (← placeFor name none).map gateAt

def breakerStep (handle : Nat) (step : BreakerStep) : Act ν (Result ν) := do
  let place ← inspect (·.place handle)
  match step with
  | .state =>
    match ← serve place .observe with
    | .stats s => return .state s.state
    | _ => return .nothing
  | .stats =>
    match ← serve place .observe with
    | .stats s => return .stats s
    | _ => return .nothing
  | .acquire =>
    match ← serve place .acquire with
    | .refused e => return .admission (some e)
    | _ => return .admission none
  | .name => return .text (← inspect (·.nameOf place))
  | .debug => return .text (← inspect (·.diagnosticOf place))
  | .success => discard (serve place .recordSuccess); return .nothing
  | .failure e => discard (serve place (.recordFailure (e.map .ofFailure))); return .nothing
  | .reset => discard (serve place .reset); return .nothing
  | .subscribe label =>
    return .number (← change fun s => s.subscribe place (s.labelOf label))
  | .unsubscribe index =>
    return .truth (← change fun s => s.unsubscribe place (s.subscription index))

def revealBreaker (place : Handle) : Act ν (Result ν) := do
  let handle ← change (·.handleOf place)
  return .breaker handle (← inspect (·.nameOf place))

def withRegistry (empty : Result ν) (f : Registry String → Act ν (Result ν)) :
    Act ν (Result ν) := do
  match ← inspect (·.ownRegistry) with
  | some r => f r
  | none => return empty

def putRegistry (r : Registry String) (notices : List (Notice String)) : Act ν Unit :=
  adjust fun s => { s with source := .registry r }.notify (Stage.byCircuit notices)

def registryStep : RegistryStep → Act ν (Result ν)
  | .get name settings => do
    match ← placeFor name settings with
    | .ok place => revealBreaker place
    | .error e => return .registryError e
  | .find name => withRegistry .nothing fun r =>
    match r.get? name with
    | some number => revealBreaker (.registered number)
    | none => return .nothing
  | .remove name => withRegistry (.truth false) fun r => do
    let (found, r) := r.remove name
    putRegistry r []
    return .truth found
  | .states => withRegistry (.states []) fun r => do
    let (states, r, notices) := r.states (← request .now)
    putRegistry r notices
    return .states states
  | .names => withRegistry (.texts []) fun r => return .texts r.names
  | .size => withRegistry (.size 0) fun r => return .size r.size
  | .resetAll => withRegistry .nothing fun r => do
    let (r, notices) := r.resetAll (← request .now)
    putRegistry r notices
    return .nothing
  | .debug => withRegistry (.text "NullBreakerRegistry") fun r => return .text r.diagnostic
  | .subscribeAll label => withRegistry (.number 0) fun r => do
    let label ← inspect (·.labelOf label)
    let (number, r) := r.subscribeAll label
    putRegistry r []
    adjust (·.subscribed number)
    return .number number
  | .unsubscribeAll index => withRegistry (.truth false) fun r => do
    let (found, r) := r.unsubscribeAll (← inspect (·.subscription index))
    putRegistry r []
    return .truth found

/-! ### Dead letters -/

def store : Store (Act ν) where
  serve r := do
    let now ← request .now
    change (·.serveStore now r)

def handle (message : Message) : Act ν Bool := do
  let now ← request .now
  adjust (·.record (.replayed message now))
  match ← change (·.takeReplay) with
  | none => return true
  | some o =>
    match ← carryOut o none with
    | .ok _ => return true
    | .error _ => return false

def claims : ClaimKeeper (Act ν) where
  hold id := request (.entrust (.release id))
  settle _ := request .relieve
  abandon id := do
    request .relieve
    discard (request (.spawn (.release id)))

def queueOf (s : Stage ν) : DeadLetterQueue (Act ν) where
  store := store
  handler := s.handler.map fun _ => handle
  plan := s.plan
  newId := change (·.makeId)
  wallClock := change (·.readWallClock)
  claims := claims

def withQueue {α : Type} (f : DeadLetterQueue (Act ν) → ExceptT DeadLetterError (Act ν) α)
    (result : α → Result ν) : Act ν (Result ν) := do
  match ← (f (← inspect queueOf)).run with
  | .ok a => return result a
  | .error e => return .deadLetterError e

def askStore (r : StoreRequest) (result : r.Reply → Result ν) : Act ν (Result ν) :=
  withQueue (fun q => q.store.ask r) result

def deadLetterStep : DeadLetterStep → Act ν (Result ν)
  | .enqueue message reason failure metadata =>
    withQueue (fun q => q.enqueue message reason (failure.map .capture) metadata) .id
  | .get id => do askStore (.get (← inspect (·.resolve id))) .entry
  | .entries f => askStore (.query f) .entries
  | .ids f => askStore (.query f) fun es => .ids (es.map (·.id))
  | .count f => askStore (.count f) .number
  | .countByReason => withQueue (·.countByReason) .counts
  | .purge cutoff replayedOnly => withQueue (·.purge cutoff replayedOnly) .number
  | .purgeExpired => withQueue (·.purgeExpired) .number
  | .plan => return .plan (← inspect (·.plan))
  | .insert e => askStore (.insert e) fun _ => .nothing
  | .claim id => do askStore (.tryClaim (← inspect (·.resolve id))) .truth
  | .mark id time => do askStore (.markReplayed (← inspect (·.resolve id)) time) .truth
  | .release id => do askStore (.release (← inspect (·.resolve id))) fun _ => .nothing
  | .size => return .size (← inspect (·.store.size))
  | .requests => return .texts (← inspect (·.requests.reverse))
  | .handler => return .handler (← inspect (·.handler.isSome))

def purgeTimer (token : Nat) : PurgeTimer (Act ν) where
  wait tick := request (.rest (tick.getD Duration.limit) (some token))

def advance (d : Duration) : Act ν Unit := do
  request (.turnClock d)
  request .giveWay

/-- Runs a purge loop in the background, and notes the number of dead letters after each advance. -/
def servePurge (advances : List Duration) : Act ν (Result ν) := do
  let ran ← inspect fun s => (queueOf s).canPurge
  let token ← makeToken false
  let task ← if ran then request (.spawn (.purge (← request .now) 1 token)) else pure 0
  request .giveWay
  let sizes ← advances.mapM fun d => do
    advance d
    request .giveWay
    inspect (·.store.size)
  let finishedEarly ← if ran then request (.isFinished task) else pure true
  cancelToken token
  if ran then discard (request (.join task))
  return .purgeLoop sizes finishedEarly ran

/-! ### Deliveries -/

def transportOf (name : String) (script token : Nat) : Transport (Act ν) where
  name := name
  publish message := do
    let now ← request .now
    adjust (·.record (.published name message now))
    match ← change (·.takeCall script) with
    | none => return .ok ()
    | some o =>
      match ← carryOut o (some token) with
      | .ok _ => return .ok ()
      | .error e => return .error e.error

def courierOf (s : Stage ν) : Courier (Act ν) where
  retry := s.retry
  gate := gateFor
  deadLetters := queueOf s

/-! ### Steps -/

def repeatStep (s : Step ν) : (times : Nat) → Result ν → Act ν (Result ν)
  | 0, last => return last
  | times + 1, _ => do repeatStep s times (← perform s)

def performStep : Step ν → Act ν (Result ν)
  | .now => return .instant (← request .now)
  | .advance d => do
    advance d
    return .nothing
  | .sleep d => do
    discard (pause d none)
    return .instant (← request .now)
  | .giveWay => do
    request .giveWay
    return .nothing
  | .again times s => repeatStep s times .nothing
  | .within d s => do
    let start ← request .now
    return .timed (← request (.within (start + d) (.step s)))
  | .together steps => return .several (← request (.together (steps.map .step)))
  | .breaker b step => breakerStep b step
  | .execute b cancelled o => do
    let token ← makeToken cancelled
    let place ← inspect (·.place b)
    return .call (← (gateAt place).guard (callerOf token) (carryOut o (some token)))
  | .registry step => registryStep step
  | .deadLetters step => deadLetterStep step
  | .replay id => do
    let id ← inspect (·.resolve id)
    withQueue (·.replay id) .truth
  | .replayBatch f => withQueue (·.replayBatch f) .number
  | .abandon id => return .abandoned (← request (.attempt (.step (.replay id)))).isSome
  | .servePurge advances => servePurge advances
  | .deliver transport message script cancelled cancelAfter => do
    let token ← makeToken cancelled
    if let some d := cancelAfter then
      let start ← request .now
      discard (request (.spawn (.cancel token (start + d))))
    let number ← change fun s => (s.scripts.length, { s with scripts := s.scripts ++ [script] })
    let courier ← inspect courierOf
    return .delivery
      (← courier.deliver (callerOf token) (transportOf transport number token) message)

def script : Script (Stage ν) (Job ν) (Result ν)
  | .step s => do
    let r ← performStep s
    adjust (·.reveal r.shownIds)
    return .value r
  | .release id => do
    discard (store.serve (.release id))
    return .value .nothing
  | .cancel token deadline => do
    cancelAt token deadline
    return .value .nothing
  | .purge start round token => do
    match ← (← inspect queueOf).purgeRound (purgeTimer token) start round with
    | .next round => return .next (.purge start round token)
    | .ended => return .value .nothing

end Delivery.Rehearsal
