import Mathlib.Logic.Function.Basic
import Delivery.Failure.TransportError
import Delivery.Proofs.Breaker.Traffic

/-!
# What a cancellation leaves behind

A breaker is used by anybody who asks it something and by guarded calls, in any order. From such a
run everything that was cancelled is deleted: the calls that end cancelled, with all they did, and
failures that are recorded though they are cancellations. What is left is run again from the start.

A cancelled call has asked for admission, and that may have made an open circuit half-open earlier
than it would have been without it. So the circuit of the whole run may be ahead of the other one,
by this shift and no more (`Circuit.Ahead`); whatever is asked next makes it up, because every
request looks at the clock first. A recorded cancellation is gone without trace only if it is not
counted, and the breaker counts what its test accepts: `Usage.undisturbed_of_create` says what that
comes to.
-/

namespace Delivery

/-! ### Circuits looked at early -/

namespace Circuit

variable {period : Duration} {now now' : Instant} {c c' : Circuit} {lead : List Shift}

/-- The first circuit is the second one, or what a look would make of it, with that shift. -/
inductive Ahead (period : Duration) (now : Instant) : Circuit → Circuit → List Shift → Prop where
  | level (c : Circuit) : Ahead period now c c []
  | early (c : Circuit) (h : c.isDue period now = true) :
      Ahead period now { c with state := .halfOpen, consecutiveSuccesses := 0 } c
        [⟨.opened, .halfOpen, none⟩]

theorem isDue_iff : c.isDue period now = true ↔
    c.state = .opened ∧ ∃ start, c.openedAt = some start ∧ period ≤ now - start := by
  cases hat : c.openedAt <;> simp [isDue, hat]

theorem isDue_later (h : c.isDue period now = true) (hle : now ≤ now') :
    c.isDue period now' = true := by
  obtain ⟨hstate, start, hat, hdue⟩ := isDue_iff.mp h
  exact isDue_iff.mpr ⟨hstate, start, hat, Nat.le_trans hdue (Nat.sub_le_sub_right hle start)⟩

theorem refresh_of_isDue (h : c.isDue period now = true) :
    c.refresh period now =
      ⟨(), { c with state := .halfOpen, consecutiveSuccesses := 0 },
        [⟨.opened, .halfOpen, none⟩]⟩ := by
  rw [refresh, if_pos h, shift, (isDue_iff.mp h).1]

theorem refresh_failures (c : Circuit) (period : Duration) (now : Instant) :
    (c.refresh period now).circuit.consecutiveFailures = c.consecutiveFailures := by
  rcases c.refresh_cases period now with ⟨start, -, -, -, heq⟩ | ⟨heq, -⟩
  · rw [heq]
  · rw [heq]

theorem Ahead.later (h : Ahead period now c c' lead) (hle : now ≤ now') :
    Ahead period now' c c' lead := by
  cases h with
  | level => exact .level c
  | early _ hdue => exact .early c' (isDue_later hdue hle)

theorem Ahead.lead_cases (h : Ahead period now c c' lead) :
    lead = [] ∨ lead = [⟨.opened, .halfOpen, none⟩] ∧ c'.isDue period now = true := by
  cases h with
  | level => exact .inl rfl
  | early _ hdue => exact .inr ⟨rfl, hdue⟩

theorem ahead_refresh (c : Circuit) (period : Duration) (now : Instant) :
    Ahead period now (c.refresh period now).circuit c (c.refresh period now).shifts := by
  by_cases h : c.isDue period now = true
  · rw [refresh_of_isDue h]
    exact .early c h
  · rw [refresh, if_neg h]
    exact .level c

/-- A look makes up for a look that was made before. -/
theorem Ahead.refresh (h : Ahead period now c c' lead) :
    (c.refresh period now).circuit = (c'.refresh period now).circuit ∧
      lead ++ (c.refresh period now).shifts = (c'.refresh period now).shifts := by
  cases h with
  | level => exact ⟨rfl, rfl⟩
  | early _ hdue =>
    have hhalf : ({ c' with state := .halfOpen, consecutiveSuccesses := 0 } : Circuit).isDue
        period now = false := rfl
    rw [refresh_of_isDue hdue, Circuit.refresh, hhalf]
    exact ⟨rfl, rfl⟩

theorem Ahead.refreshed {α : Type} (h : Ahead period now c c' lead) (next : Circuit → Effect α) :
    (c.refreshed period now next).answer = (c'.refreshed period now next).answer ∧
      (c.refreshed period now next).circuit = (c'.refreshed period now next).circuit ∧
      lead ++ (c.refreshed period now next).shifts = (c'.refreshed period now next).shifts := by
  obtain ⟨hcircuit, hshifts⟩ := h.refresh
  simp only [Circuit.refreshed, hcircuit, ← hshifts, List.append_assoc, and_self]

theorem Ahead.answer_acquire (h : Ahead period now c c' lead) :
    (c.acquire period now).answer = (c'.acquire period now).answer := (h.refreshed _).1

end Circuit

/-! ### Breakers looked at early -/

namespace CircuitBreaker

variable {listener : Type} {b b' : CircuitBreaker listener} {now now' : Instant}
  {lead : List Shift}

/-- The breakers differ at most by a look. -/
structure Ahead (now : Instant) (b b' : CircuitBreaker listener) (lead : List Shift) : Prop where
  same : b = { b' with circuit := b.circuit }
  circuit : Circuit.Ahead b'.settings.openDuration now b.circuit b'.circuit lead

theorem Ahead.refl (now : Instant) (b : CircuitBreaker listener) : Ahead now b b [] :=
  ⟨rfl, .level b.circuit⟩

theorem Ahead.later (h : Ahead now b b' lead) (hle : now ≤ now') : Ahead now' b b' lead :=
  ⟨h.same, h.circuit.later hle⟩

theorem Ahead.refreshed {α : Type} {c : Circuit}
    (h : Circuit.Ahead b.settings.openDuration now c b.circuit lead)
    (next : Circuit → Circuit.Effect α) (answer : α → BreakerAnswer) :
    let e := c.refreshed b.settings.openDuration now next
    let e' := b.circuit.refreshed b.settings.openDuration now next
    answer e.answer = answer e'.answer ∧
      ∃ lead', Ahead now { b with circuit := e.circuit } { b with circuit := e'.circuit } lead' ∧
        lead ++ e.shifts = e'.shifts ++ lead' := by
  obtain ⟨hanswer, hcircuit, hshifts⟩ := h.refreshed next
  refine ⟨congrArg answer hanswer, [], ⟨rfl, ?_⟩, hshifts.trans (List.append_nil _).symm⟩
  rw [hcircuit]
  exact .level _

/-- The answers do not tell whether there was a look before, and what is asked makes up for it
unless it is a failure that does not count. -/
theorem Ahead.serve (h : Ahead now b b' lead) (q : BreakerRequest) :
    (b.serve now q).answer = (b'.serve now q).answer ∧
      ∃ lead', Ahead now (b.serve now q).breaker (b'.serve now q).breaker lead' ∧
        lead ++ b.shifts now q = b'.shifts now q ++ lead' := by
  obtain ⟨hsame, hcircuit⟩ := h
  generalize b.circuit = c at hsame hcircuit
  subst hsame
  cases q with
  | observe => exact Ahead.refreshed hcircuit _ BreakerAnswer.stats
  | acquire =>
    have hanswer := hcircuit.answer_acquire
    refine ⟨?_, (Ahead.refreshed hcircuit _ fun _ => .noted).2⟩
    simp only [CircuitBreaker.serve, settle, hanswer]
  | recordSuccess => exact Ahead.refreshed hcircuit _ fun _ => .noted
  | reset => exact Ahead.refreshed hcircuit _ fun _ => .noted
  | recordFailure incident =>
    have hcounts : countsFailure { b' with circuit := c } incident =
        b'.countsFailure incident := rfl
    simp only [CircuitBreaker.serve, shifts, hcounts]
    split
    · exact Ahead.refreshed hcircuit _ fun _ => .noted
    · exact ⟨rfl, lead, ⟨rfl, hcircuit⟩, List.append_nil _⟩

/-- A breaker that admits somebody is only looked at. -/
theorem Ahead.admitted (h : Ahead now b b' lead)
    (hadmitted : (b.serve now .acquire).answer = .admitted) :
    ∃ lead', Ahead now (b.serve now .acquire).breaker b' lead' ∧
      lead ++ b.shifts now .acquire = lead' := by
  obtain ⟨hsame, hcircuit⟩ := h
  generalize b.circuit = c at hsame hcircuit
  subst hsame
  have hopen : (c.refresh b'.settings.openDuration now).circuit.state ≠ .opened := by
    rcases answer_acquire { b' with circuit := c } now with ⟨-, e, hrefused⟩ | ⟨hopen, -⟩
    · cases hrefused.symm.trans hadmitted
    · exact hopen
  obtain ⟨hlook, hshifts⟩ := hcircuit.refresh
  have hahead := Circuit.ahead_refresh b'.circuit b'.settings.openDuration now
  simp only [CircuitBreaker.serve, settle, shifts, Circuit.acquire, Circuit.refreshed,
    if_neg hopen, List.append_nil]
  exact ⟨_, ⟨rfl, hlook ▸ hahead⟩, hshifts⟩

theorem Ahead.subscribe (h : Ahead now b b' lead) (l : listener) :
    (b.subscribe l).1 = (b'.subscribe l).1 ∧
      Ahead now (b.subscribe l).2 (b'.subscribe l).2 lead := by
  obtain ⟨hsame, hcircuit⟩ := h
  generalize b.circuit = c at hsame hcircuit
  subst hsame
  exact ⟨rfl, rfl, hcircuit⟩

theorem Ahead.unsubscribe (h : Ahead now b b' lead) (id : Nat) :
    (b.unsubscribe id).1 = (b'.unsubscribe id).1 ∧
      Ahead now (b.unsubscribe id).2 (b'.unsubscribe id).2 lead := by
  obtain ⟨hsame, hcircuit⟩ := h
  generalize b.circuit = c at hsame hcircuit
  subst hsame
  exact ⟨rfl, rfl, hcircuit⟩

end CircuitBreaker

/-! ### Guarded calls that are candid -/

variable {ε α : Type}

/-- From here on the call asks the breaker for admission and tells how it went, never of a
cancellation; whatever it has told the breaker is how it ends. -/
inductive Candid [Classified ε] [Describable ε] : GuardedCall ε α → Prop where
  | done (result : Except (CallError ε) α) : Candid (.done result)
  | acquire {next : BreakerAnswer → GuardedCall ε α} (admitted : Candid (next .admitted))
      (refused : ∀ e, next (.refused e) = .done (.error (.circuitOpen e))) :
      Candid (.ask (.serve .acquire) next)
  | call {next : Except ε α → GuardedCall ε α} (h : ∀ result, Candid (next result)) :
      Candid (.ask .call next)
  | cancelled {next : Bool → GuardedCall ε α} (h : ∀ stopped, Candid (next stopped)) :
      Candid (.ask .cancelled next)
  | success {next : BreakerAnswer → GuardedCall ε α} (value : α)
      (h : ∀ answer, next answer = .done (.ok value)) : Candid (.ask (.serve .recordSuccess) next)
  | failure {next : BreakerAnswer → GuardedCall ε α} (e : ε) (he : isCancellation e = false)
      (h : ∀ answer, next answer = .done (.error (.operation e))) :
      Candid (.ask (.serve (.recordFailure (some (.ofFailure e)))) next)

theorem candid_new [Classified ε] [Describable ε] : Candid (GuardedCall.new : GuardedCall ε α) := by
  refine .acquire (.call ?_) fun e => rfl
  intro result
  cases result with
  | ok value => exact .success value fun _ => rfl
  | error e =>
    refine .cancelled fun stopped => ?_
    show Candid (if Classified.isCancellation e || stopped then _ else _)
    split
    · exact .done _
    · rename_i hno
      exact .failure e (Bool.or_eq_false_iff.mp ((Bool.not_eq_true _).mp hno)).1 fun _ => rfl

/-! ### Usage of a breaker -/

/-- What a call waits for, apart from the breaker. -/
inductive News (ε α : Type) where
  -- What the call does ends with a result.
  | finished (result : Except ε α)
  -- The call learns whether its caller has asked it to stop.
  | told (cancelled : Bool)

/-- The call goes on with news. What it does not wait for changes nothing. -/
def GuardedCall.hear : GuardedCall ε α → News ε α → GuardedCall ε α
  | .ask .call next, .finished result => next result
  | .ask .cancelled next, .told cancelled => next cancelled
  | p, _ => p

inductive Usage.Move (listener ε α : Type) where
  | act (act : BreakerAct listener)
  -- The breaker serves the request that this call has come to.
  | serve (number : Nat)
  | hear (number : Nat) (news : News ε α)

inductive Usage.Reply where
  | answer (a : BreakerAnswer)
  | subscribed (id : Nat)
  | unsubscribed (found : Bool)
  | silent
  deriving DecidableEq, Repr

abbrev UsageRun (listener ε α : Type) := List (Instant × Usage.Move listener ε α)

/-- A breaker and the guarded calls that are made through it, each as far as it has come. -/
structure Usage (listener ε α : Type) where
  breaker : CircuitBreaker listener
  calls : Nat → GuardedCall ε α

structure Usage.Effect (listener ε α : Type) where
  usage : Usage listener ε α
  reply : Reply := .silent
  shifts : List Shift := []

namespace Usage

variable {listener : Type}

/-- No call has begun. -/
def start [Classified ε] [Describable ε] (b : CircuitBreaker listener) : Usage listener ε α where
  breaker := b
  calls _ := .new

/-- The breaker serves a request at a time, and the calls come to what follows from the answer. -/
def ask (u : Usage listener ε α) (now : Instant) (q : BreakerRequest)
    (calls : BreakerAnswer → Nat → GuardedCall ε α) : Effect listener ε α where
  usage := ⟨(u.breaker.serve now q).breaker, calls (u.breaker.serve now q).answer⟩
  reply := .answer (u.breaker.serve now q).answer
  shifts := u.breaker.shifts now q

/-- A move that is not possible changes nothing. -/
def perform (u : Usage listener ε α) (now : Instant) : Move listener ε α → Effect listener ε α
  | .act (.ask q) => u.ask now q fun _ => u.calls
  | .act (.subscribe l) =>
    ⟨{ u with breaker := (u.breaker.subscribe l).2 }, .subscribed (u.breaker.subscribe l).1, []⟩
  | .act (.unsubscribe id) =>
    ⟨{ u with breaker := (u.breaker.unsubscribe id).2 },
      .unsubscribed (u.breaker.unsubscribe id).1, []⟩
  | .serve n =>
    match u.calls n with
    | .ask (.serve q) next => u.ask now q fun answer => Function.update u.calls n (next answer)
    | _ => { usage := u }
  | .hear n news =>
    { usage := { u with calls := Function.update u.calls n ((u.calls n).hear news) } }

def after (u : Usage listener ε α) (run : UsageRun listener ε α) : Usage listener ε α :=
  run.foldl (fun u e => (u.perform e.1 e.2).usage) u

/-- All moves of a run with their replies. -/
def trace (u : Usage listener ε α) :
    UsageRun listener ε α → List ((Instant × Move listener ε α) × Reply)
  | [] => []
  | e :: rest => (e, (u.perform e.1 e.2).reply) :: trace (u.perform e.1 e.2).usage rest

/-- All shifts of a run, in order. -/
def shifts (u : Usage listener ε α) : UsageRun listener ε α → List Shift
  | [] => []
  | e :: rest => (u.perform e.1 e.2).shifts ++ shifts (u.perform e.1 e.2).usage rest

/-- The call has ended and was cancelled. -/
def cancelled (u : Usage listener ε α) (n : Nat) : Bool :=
  match u.calls n with
  | .done (.error .cancelled) => true
  | _ => false

theorem cancelled_iff {u : Usage listener ε α} {n : Nat} :
    u.cancelled n = true ↔ u.calls n = .done (.error .cancelled) := by
  rw [cancelled]
  split
  · rename_i heq
    exact ⟨fun _ => heq, fun _ => rfl⟩
  · rename_i hno
    exact ⟨nofun, fun heq => absurd heq hno⟩

end Usage

/-! ### Deletion -/

/-- The move is not deleted with these recorded failures and the moves of these calls. -/
def Usage.Move.remains {listener : Type} (dropped : Incident → Bool) (gone : Nat → Bool) :
    Usage.Move listener ε α → Bool
  | .act (.ask (.recordFailure (some incident))) => !dropped incident
  | .act _ => true
  | .serve n => !gone n
  | .hear n _ => !gone n

namespace Usage

variable {listener : Type}

/-- The run without the calls that end cancelled in it and without these recorded failures. -/
def without (u : Usage listener ε α) (dropped : Incident → Bool) (run : UsageRun listener ε α) :
    UsageRun listener ε α :=
  run.filter fun e => e.2.remains dropped (u.after run).cancelled

/-- What remains of a run is answered as in the whole run. -/
structure Undisturbed (u : Usage listener ε α) (dropped : Incident → Bool)
    (run : UsageRun listener ε α) : Prop where
  replies : u.trace (u.without dropped run) =
    (u.trace run).filter fun r => r.1.2.remains dropped (u.after run).cancelled
  calls : ∀ n, (u.after run).cancelled n = false →
    (u.after (u.without dropped run)).calls n = (u.after run).calls n
  -- a last shift may be missing, one that is due but that nobody has looked for
  shifts : u.shifts run = u.shifts (u.without dropped run) ∨
    u.shifts run = u.shifts (u.without dropped run) ++ [⟨.opened, .halfOpen, none⟩] ∧
      ∃ e ∈ run, (u.after (u.without dropped run)).breaker.circuit.isDue
        (u.after (u.without dropped run)).breaker.settings.openDuration e.1 = true

/-! ### One move -/

section Perform

variable {u : Usage listener ε α} {now : Instant} {n : Nat} {q : BreakerRequest}
  {next : BreakerAnswer → GuardedCall ε α}

theorem perform_serve (h : u.calls n = .ask (.serve q) next) :
    u.perform now (.serve n) =
      u.ask now q fun answer => Function.update u.calls n (next answer) := by
  simp only [perform, h]

theorem perform_idle (h : ¬ ∃ q next, u.calls n = .ask (.serve q) next) :
    u.perform now (.serve n) = { usage := u } := by
  simp only [perform]
  split
  · rename_i q next hask
    exact absurd ⟨q, next, hask⟩ h
  · rfl

theorem perform_counts (u : Usage listener ε α) (now : Instant) (move : Move listener ε α) :
    (u.perform now move).usage.breaker.counts = u.breaker.counts := by
  cases move with
  | act act =>
    have hfixed := (u.breaker.perform_fixed now act).2.2
    cases act <;> exact hfixed
  | serve n =>
    by_cases hask : ∃ q next, u.calls n = .ask (.serve q) next
    · obtain ⟨q, next, hask⟩ := hask
      rw [perform_serve hask]
      exact (u.breaker.perform_fixed now (.ask q)).2.2
    · rw [perform_idle hask]
  | hear n news => rfl

/-- A call that has ended stays as it is. -/
theorem done_perform {result : Except (CallError ε) α} (h : u.calls n = .done result)
    (now : Instant) (move : Move listener ε α) :
    (u.perform now move).usage.calls n = .done result := by
  cases move with
  | act act => cases act <;> exact h
  | serve m =>
    by_cases hask : ∃ q next, u.calls m = .ask (.serve q) next
    · obtain ⟨q, next, hask⟩ := hask
      have hne : n ≠ m := by
        rintro rfl
        cases h.symm.trans hask
      rw [perform_serve hask]
      exact (Function.update_of_ne hne _ _).trans h
    · rw [perform_idle hask]
      exact h
  | hear m news =>
    show Function.update u.calls m _ n = _
    by_cases hne : n = m
    · rw [← hne, Function.update_self, h]
      rfl
    · rw [Function.update_of_ne hne, h]

theorem done_after {result : Except (CallError ε) α} {run : UsageRun listener ε α}
    (h : u.calls n = .done result) : (u.after run).calls n = .done result := by
  induction run generalizing u with
  | nil => exact h
  | cons e rest ih => exact ih (done_perform h e.1 e.2)

end Perform

/-! ### Calls stay candid -/

variable [Classified ε] [Describable ε] {u full less : Usage listener ε α} {now : Instant}
  {move : Move listener ε α} {gone : Nat → Bool} {dropped : Incident → Bool} {lead : List Shift}

theorem candid_answer {q : BreakerRequest} {next : BreakerAnswer → GuardedCall ε α}
    (h : Candid (.ask (.serve q) next)) (b : CircuitBreaker listener) (now : Instant) :
    Candid (next (b.serve now q).answer) := by
  cases h with
  | acquire admitted refused =>
    rcases b.answer_acquire now with ⟨-, e, hanswer⟩ | ⟨-, hanswer⟩
    · rw [hanswer, refused e]
      exact .done _
    · rw [hanswer]
      exact admitted
  | success value h =>
    rw [h]
    exact .done _
  | failure e he h =>
    rw [h]
    exact .done _

theorem candid_hear {p : GuardedCall ε α} (h : Candid p) (news : News ε α) :
    Candid (p.hear news) := by
  unfold GuardedCall.hear
  split
  · cases h with
    | call hnext => exact hnext _
  · cases h with
    | cancelled hnext => exact hnext _
  · exact h

theorem candid_update {calls : Nat → GuardedCall ε α} (h : ∀ n, Candid (calls n)) (n : Nat)
    {p : GuardedCall ε α} (hp : Candid p) (m : Nat) : Candid (Function.update calls n p m) := by
  rw [Function.update_apply]
  split
  · exact hp
  · exact h m

theorem candid_perform (h : ∀ n, Candid (u.calls n)) (now : Instant) (move : Move listener ε α) :
    ∀ n, Candid ((u.perform now move).usage.calls n) := by
  cases move with
  | act act => cases act <;> exact h
  | serve n =>
    by_cases hask : ∃ q next, u.calls n = .ask (.serve q) next
    · obtain ⟨q, next, hask⟩ := hask
      rw [perform_serve hask]
      exact candid_update h n (candid_answer (hask ▸ h n) u.breaker now)
    · rw [perform_idle hask]
      exact h
  | hear n news => exact candid_update h n (candid_hear (h n) news)

theorem candid_after (h : ∀ n, Candid (u.calls n)) (run : UsageRun listener ε α) :
    ∀ n, Candid ((u.after run).calls n) := by
  induction run generalizing u with
  | nil => exact h
  | cons e rest ih => exact ih (candid_perform h e.1 e.2)

/-! ### Two runs side by side -/

/-- How the whole run and what remains of it stand to each other. -/
structure Aligned (now : Instant) (gone : Nat → Bool) (full less : Usage listener ε α)
    (lead : List Shift) : Prop where
  breaker : CircuitBreaker.Ahead now full.breaker less.breaker lead
  calls : ∀ n, gone n = false → less.calls n = full.calls n
  candid : ∀ n, Candid (full.calls n)

theorem Aligned.start (now : Instant) (gone : Nat → Bool) (b : CircuitBreaker listener) :
    Aligned now gone (start b : Usage listener ε α) (start b) [] :=
  ⟨.refl now b, fun _ _ => rfl, fun _ => candid_new⟩

theorem Aligned.later (h : Aligned now gone full less lead) {now' : Instant} (hle : now ≤ now') :
    Aligned now' gone full less lead :=
  ⟨h.breaker.later hle, h.calls, h.candid⟩

theorem Aligned.update (h : Aligned now gone full less lead) (n : Nat) (p : GuardedCall ε α)
    (m : Nat) (hm : gone m = false) :
    Function.update less.calls n p m = Function.update full.calls n p m := by
  rw [Function.update_apply, Function.update_apply, h.calls m hm]

/-- A move that remains has the same reply. -/
theorem Aligned.remains (h : Aligned now gone full less lead)
    (hd : move.remains dropped gone = true) :
    (less.perform now move).reply = (full.perform now move).reply ∧
      ∃ lead', Aligned now gone (full.perform now move).usage (less.perform now move).usage lead' ∧
        lead ++ (full.perform now move).shifts = (less.perform now move).shifts ++ lead' := by
  have hcandid := candid_perform h.candid now move
  cases move with
  | act act =>
    cases act with
    | ask q =>
      obtain ⟨hanswer, lead', hbreaker, hshifts⟩ := h.breaker.serve q
      exact ⟨congrArg Reply.answer hanswer.symm, lead', ⟨hbreaker, h.calls, hcandid⟩, hshifts⟩
    | subscribe l =>
      obtain ⟨hid, hbreaker⟩ := h.breaker.subscribe l
      exact ⟨congrArg Reply.subscribed hid.symm, lead, ⟨hbreaker, h.calls, hcandid⟩,
        List.append_nil lead⟩
    | unsubscribe id =>
      obtain ⟨hfound, hbreaker⟩ := h.breaker.unsubscribe id
      exact ⟨congrArg Reply.unsubscribed hfound.symm, lead, ⟨hbreaker, h.calls, hcandid⟩,
        List.append_nil lead⟩
  | serve n =>
    have hn : less.calls n = full.calls n := h.calls n ((Bool.not_eq_true' _).mp hd)
    by_cases hask : ∃ q next, full.calls n = .ask (.serve q) next
    · obtain ⟨q, next, hask⟩ := hask
      obtain ⟨hanswer, lead', hbreaker, hshifts⟩ := h.breaker.serve q
      rw [perform_serve hask] at hcandid ⊢
      rw [perform_serve (hn.trans hask)]
      refine ⟨congrArg Reply.answer hanswer.symm, lead', ⟨hbreaker, ?_, hcandid⟩, hshifts⟩
      simp only [ask, hanswer]
      exact h.update n _
    · have hask' : ¬ ∃ q next, less.calls n = .ask (.serve q) next := hn ▸ hask
      rw [perform_idle hask, perform_idle hask']
      exact ⟨rfl, lead, h, List.append_nil lead⟩
  | hear n news =>
    have hn : less.calls n = full.calls n := h.calls n ((Bool.not_eq_true' _).mp hd)
    refine ⟨rfl, lead, ⟨h.breaker, ?_, hcandid⟩, List.append_nil lead⟩
    simp only [perform, hn]
    exact h.update n _

/-- Whatever a call that ends cancelled asks of the breaker, it asks for admission and has it. -/
theorem admitted_of_cancelled {q : BreakerRequest} {next : BreakerAnswer → GuardedCall ε α}
    (h : Candid (.ask (.serve q) next)) (b : CircuitBreaker listener) (now : Instant)
    (hend : ∀ result, next (b.serve now q).answer = .done result → result = .error .cancelled) :
    q = .acquire ∧ (b.serve now .acquire).answer = .admitted := by
  cases h with
  | acquire _ refused =>
    rcases b.answer_acquire now with ⟨-, e, hanswer⟩ | ⟨-, hanswer⟩
    · rw [hanswer] at hend
      cases hend _ (refused e)
    · exact ⟨rfl, hanswer⟩
  | success value h => cases hend _ (h _)
  | failure e he h => cases hend _ (h _)

/-- A move that is deleted does to the whole run at most what a look would do. -/
theorem Aligned.deleted (h : Aligned now gone full less lead)
    (hd : move.remains dropped gone = false)
    (hdropped : ∀ incident, dropped incident = true → full.breaker.counts incident = false)
    (hgone : ∀ n result, gone n = true → (full.perform now move).usage.calls n = .done result →
      result = .error .cancelled) :
    ∃ lead', Aligned now gone (full.perform now move).usage less lead' ∧
      lead ++ (full.perform now move).shifts = lead' := by
  have hcandid := candid_perform h.candid now move
  have hcalls (n : Nat) (hn : gone n = true) (p : GuardedCall ε α) (m : Nat)
      (hm : gone m = false) : less.calls m = Function.update full.calls n p m := by
    have hne : m ≠ n := by
      rintro rfl
      cases hn.symm.trans hm
    rw [Function.update_of_ne hne]
    exact h.calls m hm
  cases move with
  | act act =>
    cases act with
    | subscribe l => cases hd
    | unsubscribe id => cases hd
    | ask q =>
      cases q with
      | recordFailure cause =>
        cases cause with
        | none => cases hd
        | some incident =>
          have hno : full.breaker.countsFailure (some incident) = false :=
            hdropped incident ((Bool.not_eq_false' _).mp hd)
          refine ⟨lead, ?_, ?_⟩
          · simpa [perform, ask, CircuitBreaker.serve, hno] using h
          · simp [perform, ask, CircuitBreaker.shifts, hno]
      | _ => cases hd
  | serve n =>
    have hn : gone n = true := (Bool.not_eq_false' _).mp hd
    by_cases hask : ∃ q next, full.calls n = .ask (.serve q) next
    · obtain ⟨q, next, hask⟩ := hask
      rw [perform_serve hask] at hcandid hgone ⊢
      have hend : ∀ result, next (full.breaker.serve now q).answer = .done result →
          result = .error .cancelled := by
        intro result hresult
        exact hgone n result hn ((Function.update_self n _ full.calls).trans hresult)
      obtain ⟨rfl, hadmitted⟩ :=
        admitted_of_cancelled (hask ▸ h.candid n) full.breaker now hend
      obtain ⟨lead', hbreaker, hshifts⟩ := h.breaker.admitted hadmitted
      exact ⟨lead', ⟨hbreaker, hcalls n hn _, hcandid⟩, hshifts⟩
    · rw [perform_idle hask]
      exact ⟨lead, h, List.append_nil lead⟩
  | hear n news =>
    have hn : gone n = true := (Bool.not_eq_false' _).mp hd
    exact ⟨lead, ⟨h.breaker, hcalls n hn _, hcandid⟩, List.append_nil lead⟩

/-- The two runs stay side by side, at the last reading. -/
theorem Aligned.run {run : UsageRun listener ε α} (h : Aligned now gone full less lead)
    (ho : InTimeOrder run) (hle : ∀ e ∈ run, now ≤ e.1)
    (hdropped : ∀ incident, dropped incident = true → full.breaker.counts incident = false)
    (hgone : ∀ n, gone n = (full.after run).cancelled n) :
    let rest := run.filter fun e => e.2.remains dropped gone
    less.trace rest = (full.trace run).filter (fun r => r.1.2.remains dropped gone) ∧
      ∃ last ∈ now :: run.map Prod.fst, ∃ lead',
        Aligned last gone (full.after run) (less.after rest) lead' ∧
        lead ++ full.shifts run = less.shifts rest ++ lead' := by
  induction run generalizing full less lead now with
  | nil => exact ⟨rfl, now, List.mem_cons_self, lead, h, List.append_nil lead⟩
  | cons e run ih =>
    obtain ⟨hfirst, ho'⟩ := List.pairwise_cons.mp ho
    replace h := h.later (hle e List.mem_cons_self)
    have hdropped' : ∀ incident, dropped incident = true →
        (full.perform e.1 e.2).usage.breaker.counts incident = false := by
      rw [perform_counts]
      exact hdropped
    have hgone' : ∀ n, gone n = ((full.perform e.1 e.2).usage.after run).cancelled n := hgone
    cases hd : e.2.remains dropped gone with
    | true =>
      obtain ⟨hreply, lead', haligned, hshifts⟩ := h.remains hd
      obtain ⟨htrace, last, hlast, lead'', haligned', hshifts'⟩ :=
        ih haligned ho' hfirst hdropped' hgone'
      have hrest : (e :: run).filter (fun e => e.2.remains dropped gone) =
          e :: run.filter fun e => e.2.remains dropped gone := List.filter_cons_of_pos hd
      intro rest
      simp only [rest, hrest]
      refine ⟨?_, last, List.mem_cons_of_mem now hlast, lead'', haligned', ?_⟩
      · rw [trace, trace, htrace, hreply, List.filter_cons, if_pos hd]
      · rw [shifts, shifts, ← List.append_assoc, hshifts, List.append_assoc, hshifts',
          List.append_assoc]
    | false =>
      have hend : ∀ n result, gone n = true →
          (full.perform e.1 e.2).usage.calls n = .done result → result = .error .cancelled := by
        intro n result hn hresult
        have hcancelled := cancelled_iff.mp ((hgone' n).symm.trans hn)
        exact Program.done.inj ((done_after hresult).symm.trans hcancelled)
      obtain ⟨lead', haligned, hshifts⟩ := h.deleted hd hdropped hend
      obtain ⟨htrace, last, hlast, lead'', haligned', hshifts'⟩ :=
        ih haligned ho' hfirst hdropped' hgone'
      have hrest : (e :: run).filter (fun e => e.2.remains dropped gone) =
          run.filter fun e => e.2.remains dropped gone :=
        List.filter_cons_of_neg ((Bool.not_eq_true _).mpr hd)
      intro rest
      simp only [rest, hrest]
      refine ⟨?_, last, List.mem_cons_of_mem now hlast, lead'', haligned', ?_⟩
      · rw [trace, htrace, List.filter_cons, if_neg (by simp [hd])]
      · rw [shifts, ← List.append_assoc, hshifts, hshifts']

theorem undisturbed_start {b : CircuitBreaker listener} {run : UsageRun listener ε α}
    (ho : InTimeOrder run)
    (hdropped : ∀ incident, dropped incident = true → b.counts incident = false) :
    (start b).Undisturbed dropped run := by
  cases run with
  | nil => exact ⟨rfl, fun _ _ => rfl, .inl rfl⟩
  | cons e rest =>
    have hle : ∀ r ∈ e :: rest, e.1 ≤ r.1 :=
      List.forall_mem_cons.mpr ⟨Nat.le_refl _, (List.pairwise_cons.mp ho).1⟩
    obtain ⟨htrace, last, hlast, lead, haligned, hshifts⟩ :=
      (Aligned.start e.1 _ b).run ho hle hdropped fun _ => rfl
    refine ⟨htrace, haligned.calls, ?_⟩
    obtain ⟨-, hahead⟩ := haligned.breaker
    rw [List.nil_append] at hshifts
    rcases hahead.lead_cases with rfl | ⟨rfl, hdue⟩
    · exact .inl (hshifts.trans (List.append_nil _))
    · obtain ⟨r, hr, rfl⟩ : ∃ r ∈ e :: rest, r.1 = last := by
        rcases List.mem_cons.mp hlast with rfl | hlast
        · exact ⟨e, List.mem_cons_self, rfl⟩
        · exact List.mem_map.mp hlast
      exact .inr ⟨hshifts, r, hr, hdue⟩

/-! ### Recorded cancellations -/

/-- No call records a cancellation. -/
theorem recorded_of_start (b : CircuitBreaker listener) (run : UsageRun listener ε α) {n : Nat}
    {cause : Option Incident} {next : BreakerAnswer → GuardedCall ε α}
    (h : ((start b).after run).calls n = .ask (.serve (.recordFailure cause)) next) :
    ∃ incident, cause = some incident ∧ incident.cancellation = false := by
  have hcandid := candid_after (u := start b) (fun _ => candid_new) run n
  rw [h] at hcandid
  cases hcandid with
  | failure e he _ => exact ⟨_, rfl, he⟩

/-- Somebody records a failure and then looks. -/
def recorded (incident : Incident) : UsageRun listener ε α :=
  [(0, .act (.ask (.recordFailure (some incident)))), (0, .act (.ask .observe))]

theorem failures_of_recorded {b : CircuitBreaker listener} {incident : Incident}
    (hb : b.circuit = {}) (hcounts : b.counts incident = true) :
    (b.serve 0 (.recordFailure (some incident))).breaker.circuit.consecutiveFailures = 1 := by
  have hcount : b.countsFailure (some incident) = true := hcounts
  have hlook : ({} : Circuit).refresh b.settings.openDuration 0 = ⟨(), {}, []⟩ := rfl
  simp only [CircuitBreaker.serve, hcount, if_true, CircuitBreaker.settle, hb,
    Circuit.recordFailure, Circuit.refreshed, hlook]
  split
  · rfl
  · rfl

/-- A fresh breaker shows that it has counted a cancellation. -/
theorem disturbed_of_counts {b : CircuitBreaker listener} {incident : Incident}
    (hb : b.circuit = {}) (hcancelled : incident.cancellation = true)
    (hcounts : b.counts incident = true) :
    ¬ (start b : Usage listener ε α).Undisturbed Incident.cancellation (recorded incident) := by
  intro h
  have hstats (b' : CircuitBreaker listener) :
      ∃ s : CircuitStats, (b'.serve 0 .observe).answer = .stats s ∧
        s.consecutiveFailures = b'.circuit.consecutiveFailures :=
    ⟨_, rfl, Circuit.refresh_failures _ _ _⟩
  obtain ⟨quiet, hquiet, hnone⟩ := hstats b
  obtain ⟨marked, hmarked, hone⟩ := hstats (b.serve 0 (.recordFailure (some incident))).breaker
  rw [failures_of_recorded hb hcounts] at hone
  have hreplies := h.replies
  simp only [without, recorded, List.filter_cons, Move.remains, hcancelled, Bool.not_true,
    Bool.false_eq_true, if_false, if_true, List.filter_nil, trace, perform, ask] at hreplies
  simp only [start, hquiet, hmarked, List.cons.injEq, Prod.mk.injEq, Reply.answer.injEq,
    BreakerAnswer.stats.injEq, true_and, and_true] at hreplies
  rw [hreplies, hone, hb] at hnone
  cases hnone

/-- A breaker that opens at the first failure opens at a recorded cancellation. -/
theorem opened_by_cancellation :
    let incident := Incident.ofFailure TransportError.cancelled
    let run : UsageRun String TransportError Unit := recorded incident
    ∃ b : CircuitBreaker String,
      CircuitBreaker.create "orders" { failureThreshold := 1, openDurationMs := 1000 }
        (fun _ => true) = .ok b ∧
      incident.cancellation = true ∧ InTimeOrder run ∧
      ((start b).trace run).map (·.2) =
        [.answer .noted,
         .answer (.stats { state := .opened, consecutiveFailures := 1, timesOpened := 1 })] ∧
      ((start b).trace ((start b).without Incident.cancellation run)).map (·.2) =
        [.answer (.stats { state := .closed })] ∧
      ¬ (start b).Undisturbed Incident.cancellation run := by
  have hcancelled : (Incident.ofFailure TransportError.cancelled).cancellation = true := by decide
  exact ⟨_, rfl, hcancelled, by simp [InTimeOrder, recorded], rfl, rfl,
    disturbed_of_counts rfl hcancelled rfl⟩

/-- Cancellations that are not counted leave nothing behind, and no call records one. So all of them
can be deleted, the recorded ones too, from every run if and only if the breaker counts none. -/
theorem undisturbed_of_create {name : String} {s : BreakerSettings} {counts : Incident → Bool}
    {b : CircuitBreaker listener} (h : CircuitBreaker.create name s counts = .ok b) :
    (∀ run : UsageRun listener ε α, InTimeOrder run →
      (start b).Undisturbed (fun i => i.cancellation && !counts i) run) ∧
    (∀ (run : UsageRun listener ε α) n cause next,
      ((start b).after run).calls n = .ask (.serve (.recordFailure cause)) next →
        ∃ incident, cause = some incident ∧ incident.cancellation = false) ∧
    ((∀ run : UsageRun listener ε α, InTimeOrder run →
        (start b).Undisturbed Incident.cancellation run) ↔
      ∀ incident : Incident, incident.cancellation = true → counts incident = false) := by
  obtain ⟨-, rfl⟩ := CircuitBreaker.create_eq h
  have horder (incident : Incident) : InTimeOrder (recorded incident : UsageRun listener ε α) := by
    simp [InTimeOrder, recorded]
  refine ⟨fun run ho => undisturbed_start ho fun incident hboth => ?_,
    fun run n cause next => recorded_of_start _ run, fun hall incident hcancelled => ?_,
    fun hno run ho => undisturbed_start ho hno⟩
  · simpa using (Bool.and_eq_true_iff.mp hboth).2
  · by_contra hcounts
    exact disturbed_of_counts rfl hcancelled ((Bool.not_eq_false _).mp hcounts)
      (hall _ (horder incident))

/-- The test counts no cancellation. After the open period a call is admitted that ends cancelled;
without it nobody has looked whether the period is over. -/
theorem undisturbed_of_create_probe :
    let b : CircuitBreaker String :=
      { name := "orders", settings := { failureThreshold := 1, openDurationMs := 1000 }
        counts := fun i => !i.cancellation }
    let run : UsageRun String TransportError Unit :=
      [(0, .act (.ask (.recordFailure none))), (1000000000, .serve 0),
       (1000000001, .hear 0 (.finished (.error ⟨.timeout, "late", none⟩))),
       (1000000001, .hear 0 (.told true)),
       (1000000002, .act (.ask (.recordFailure (some ⟨.cancelled, "stopped", true⟩))))]
    CircuitBreaker.create b.name b.settings b.counts = .ok b ∧
      (start b).Undisturbed Incident.cancellation run ∧
      ((start b).without Incident.cancellation run).length = 1 ∧
      (start b).shifts run = [⟨.closed, .opened, none⟩, ⟨.opened, .halfOpen, none⟩] ∧
      (start b).shifts ((start b).without Incident.cancellation run) =
        [⟨.closed, .opened, none⟩] := by
  intro b run
  have hcreate : CircuitBreaker.create b.name b.settings b.counts = .ok b := rfl
  obtain ⟨-, -, hlaw⟩ := undisturbed_of_create (ε := TransportError) (α := Unit) hcreate
  have hnone (i : Incident) (hi : i.cancellation = true) : b.counts i = false := by
    simp [b, hi]
  have ho : InTimeOrder run := by simp [run, InTimeOrder]
  exact ⟨hcreate, hlaw.mpr hnone run ho, by decide +kernel, by decide +kernel,
    by decide +kernel⟩

end Usage

end Delivery
