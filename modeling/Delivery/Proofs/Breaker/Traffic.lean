import Mathlib.Data.List.Nodup
import Delivery.Program
import Delivery.Breaker.Gate
import Delivery.Proofs.Breaker.History

/-!
# Calls that share a breaker

Any number of guarded calls are under way at one breaker. A call is admitted with one request and
tells how it ended with another, and what it does in between may take any time. At each move time
passes, a call begins, somebody looks at the circuit, or one call goes one question further; so the
requests of different calls come to the breaker in any order.

The history keeps every dealing with the breaker. What a call has told follows from how far it has
come, whatever the breaker answered (`Orderly`): nothing before it is admitted, at most one success,
and no success without an admission.
-/

namespace Delivery

variable {ε α : Type}

/-! ### One call -/

inductive GateAsk where
  | serve (request : BreakerRequest)
  | call
  | cancelled
  | pause (d : Duration)
  | sample

abbrev GateAsk.Reply (ε α : Type) : GateAsk → Type
  | serve _ => BreakerAnswer
  | call => Except ε α
  | cancelled => Bool
  | pause _ => Bool
  | sample => Double

abbrev GateProgram (ε α : Type) := Program GateAsk (GateAsk.Reply ε α)

abbrev GuardedCall (ε α : Type) := GateProgram ε α (Except (CallError ε) α)

def askingGate : Gate (GateProgram ε α) := .ofServe fun q => .perform (GateAsk.serve q)

def askingCaller : Caller (GateProgram ε α) where
  cancelled := .perform GateAsk.cancelled
  pause d := .perform (GateAsk.pause d)
  sample := .perform GateAsk.sample

def GuardedCall.new [Classified ε] [Describable ε] : GuardedCall ε α :=
  askingGate.guard askingCaller (.perform GateAsk.call)

/-- How far a call has come with the breaker. -/
inductive Progress where
  | outside
  | inside
  -- Refused, or the breaker has heard how it went.
  | ended

/-- From here on the call asks for what a guarded call asks for when it has come so far. -/
inductive Proceeds : Progress → GuardedCall ε α → Prop where
  | done {progress : Progress} (result : Except (CallError ε) α) :
      Proceeds progress (.done result)
  | acquire {next : BreakerAnswer → GuardedCall ε α} (admitted : Proceeds .inside (next .admitted))
      (refused : ∀ e, Proceeds .ended (next (.refused e))) :
      Proceeds .outside (.ask (.serve .acquire) next)
  | call {next : Except ε α → GuardedCall ε α} (h : ∀ result, Proceeds .inside (next result)) :
      Proceeds .inside (.ask .call next)
  | cancelled {next : Bool → GuardedCall ε α} (h : ∀ stopped, Proceeds .inside (next stopped)) :
      Proceeds .inside (.ask .cancelled next)
  | success {next : BreakerAnswer → GuardedCall ε α} (h : ∀ a, Proceeds .ended (next a)) :
      Proceeds .inside (.ask (.serve .recordSuccess) next)
  | failure {next : BreakerAnswer → GuardedCall ε α} (incident : Option Incident)
      (h : ∀ a, Proceeds .ended (next a)) :
      Proceeds .inside (.ask (.serve (.recordFailure incident)) next)

theorem proceeds_new [Classified ε] [Describable ε] :
    Proceeds .outside (GuardedCall.new : GuardedCall ε α) := by
  refine .acquire (.call ?_) fun e => .done _
  intro result
  cases result with
  | ok value => exact .success fun _ => .done _
  | error e =>
    refine .cancelled fun stopped => ?_
    show Proceeds .inside (if Classified.isCancellation e || stopped then _ else _)
    split
    · exact .done _
    · exact .failure _ fun _ => .done _

/-! ### Dealings with the breaker -/

structure Dealing where
  time : Instant
  -- The call that made the request. Somebody who only looks is none.
  caller : Option Nat
  request : BreakerRequest
  -- The state that the circuit was in by then.
  found : CircuitState
  answer : BreakerAnswer
  shifts : List Shift
  deriving DecidableEq, Repr

namespace Dealing

def opens (d : Dealing) : Bool := d.shifts.any (·.opens)

def closes (d : Dealing) : Bool :=
  d.shifts.any fun s => s.previous = .halfOpen && s.current = .closed

def admits (d : Dealing) : Bool := d.request = .acquire && d.answer = .admitted

def succeeds (d : Dealing) : Bool := d.request = .recordSuccess

theorem admits_iff {d : Dealing} :
    d.admits = true ↔ d.request = .acquire ∧ d.answer = .admitted := by simp [admits]

theorem succeeds_iff {d : Dealing} : d.succeeds = true ↔ d.request = .recordSuccess := by
  simp [succeeds]

end Dealing

/-- The call was admitted, at this reading or later. -/
def Admitted (h : List Dealing) (since : Instant) (n : Nat) : Prop :=
  ∃ a ∈ h, a.caller = some n ∧ a.admits = true ∧ since ≤ a.time

instance (h : List Dealing) (since : Instant) (n : Nat) : Decidable (Admitted h since n) :=
  inferInstanceAs (Decidable (∃ a ∈ h, a.caller = some n ∧ a.admits = true ∧ since ≤ a.time))

/-- The calls that have told of a success, in the order in which they did. -/
def successes (h : List Dealing) : List Nat :=
  h.filterMap fun d => if d.succeeds then d.caller else none

theorem Admitted.mono {h h' : List Dealing} {since : Instant} {n : Nat}
    (ha : Admitted h since n) (hsub : h ⊆ h') : Admitted h' since n := by
  obtain ⟨a, hmem, hrest⟩ := ha
  exact ⟨a, hsub hmem, hrest⟩

theorem successes_concat (h : List Dealing) (d : Dealing) :
    successes (h ++ [d]) = successes h ++ successes [d] := by
  rw [successes, List.filterMap_append]
  rfl

theorem successes_of_not {d : Dealing} (hd : d.succeeds = false) : successes [d] = [] := by
  simp [successes, hd]

theorem successes_of {d : Dealing} {n : Nat} (hd : d.succeeds = true) (hn : d.caller = some n) :
    successes [d] = [n] := by
  simp [successes, hd, hn]

theorem mem_successes {h : List Dealing} {n : Nat} :
    n ∈ successes h ↔ ∃ d ∈ h, d.succeeds = true ∧ d.caller = some n := by
  simp [successes]

theorem mem_successes_concat {h : List Dealing} {d : Dealing} {n : Nat} :
    n ∈ successes (h ++ [d]) ↔ n ∈ successes h ∨ d.succeeds = true ∧ d.caller = some n := by
  rw [successes_concat, List.mem_append, mem_successes (h := [d])]
  simp

/-! ### Traffic -/

structure Traffic (listener ε α : Type) where
  now : Instant := 0
  breaker : CircuitBreaker listener
  calls : List (GuardedCall ε α) := []
  history : List Dealing := []

namespace Traffic

variable {listener : Type}

inductive Move (ε α : Type) where
  | tick (d : Duration)
  | begin
  | look
  -- The breaker serves the request that this call has come to.
  | serve (number : Nat)
  -- What the call does ends with a result.
  | finish (number : Nat) (result : Except ε α)
  -- The call learns whether its caller has asked it to stop.
  | tell (number : Nat) (cancelled : Bool)

variable (t : Traffic listener ε α)

def dealing (caller : Option Nat) (q : BreakerRequest) : Dealing where
  time := t.now
  caller := caller
  request := q
  found := (t.breaker.circuit.refresh t.breaker.settings.openDuration t.now).circuit.state
  answer := (t.breaker.serve t.now q).answer
  shifts := t.breaker.shifts t.now q

def serve (caller : Option Nat) (q : BreakerRequest) : Traffic listener ε α :=
  { t with
    breaker := (t.breaker.serve t.now q).breaker, history := t.history ++ [t.dealing caller q] }

def goOn (n : Nat) (p : GuardedCall ε α) : Traffic listener ε α :=
  { t with calls := t.calls.set n p }

variable [Classified ε] [Describable ε]

/-- The traffic after a move. One that is not possible changes nothing. -/
def move : Move ε α → Traffic listener ε α
  | .tick d => { t with now := t.now + d }
  | .begin => { t with calls := t.calls ++ [.new] }
  | .look => t.serve none .observe
  | .serve n =>
    match t.calls[n]? with
    | some (.ask (.serve q) next) =>
      (t.serve (some n) q).goOn n (next (t.dealing (some n) q).answer)
    | _ => t
  | .finish n result =>
    match t.calls[n]? with
    | some (.ask .call next) => t.goOn n (next result)
    | _ => t
  | .tell n cancelled =>
    match t.calls[n]? with
    | some (.ask .cancelled next) => t.goOn n (next cancelled)
    | _ => t

def after (t : Traffic listener ε α) (run : List (Move ε α)) : Traffic listener ε α :=
  run.foldl (fun t m => t.move m) t

end Traffic

/-! ### What the calls have told -/

/-- What a call that has come so far has told. -/
def Progress.Told (h : List Dealing) (n : Nat) : Progress → Prop
  | outside => ∀ d ∈ h, d.caller ≠ some n
  | inside => n ∉ successes h ∧ Admitted h 0 n
  | ended => True

theorem Progress.Told.concat {h : List Dealing} {n : Nat} {progress : Progress} {d : Dealing}
    (ht : progress.Told h n) (hd : d.caller ≠ some n) : progress.Told (h ++ [d]) n := by
  cases progress with
  | outside => exact List.forall_mem_append.mpr ⟨ht, List.forall_mem_singleton.mpr hd⟩
  | inside =>
    refine ⟨?_, ht.2.mono (List.subset_append_left h [d])⟩
    intro hmem
    rcases mem_successes_concat.mp hmem with hmem | ⟨-, hn⟩
    · exact ht.1 hmem
    · exact hd hn
  | ended => trivial

/-- What can be asked of the breaker after a history. -/
structure Dealing.Fair (h : List Dealing) (d : Dealing) : Prop where
  not_reset : d.request ≠ .reset
  success : d.succeeds = true → ∃ n, d.caller = some n ∧ n ∉ successes h ∧ Admitted h 0 n

theorem Dealing.Fair.of_not {h : List Dealing} {d : Dealing} (hreset : d.request ≠ .reset)
    (hsuccess : d.request ≠ .recordSuccess) : d.Fair h :=
  ⟨hreset, fun hs => absurd (Dealing.succeeds_iff.mp hs) hsuccess⟩

theorem Dealing.Fair.once {h : List Dealing} {d : Dealing} (hf : d.Fair h)
    (honce : (successes h).Nodup) : (successes (h ++ [d])).Nodup := by
  rw [successes_concat]
  cases hs : d.succeeds with
  | false =>
    rw [successes_of_not hs, List.append_nil]
    exact honce
  | true =>
    obtain ⟨n, hn, hnew, -⟩ := hf.success hs
    rw [successes_of hs hn]
    exact honce.append (List.nodup_singleton n) (List.disjoint_singleton.mpr hnew)

theorem Dealing.Fair.admitted {h : List Dealing} {d : Dealing} (hf : d.Fair h)
    (ha : ∀ n ∈ successes h, Admitted h 0 n) : ∀ n ∈ successes (h ++ [d]), Admitted h 0 n := by
  intro n hn
  rcases mem_successes_concat.mp hn with hn | ⟨hs, hn⟩
  · exact ha n hn
  · obtain ⟨m, hm, -, hadmitted⟩ := hf.success hs
    cases hm.symm.trans hn
    exact hadmitted

namespace CircuitBreaker

theorem answer_acquire {listener : Type} (b : CircuitBreaker listener) (now : Instant) :
    let c := (b.circuit.refresh b.settings.openDuration now).circuit
    (c.state = .opened ∧ ∃ e, (b.serve now .acquire).answer = .refused e) ∨
      (c.state ≠ .opened ∧ (b.serve now .acquire).answer = .admitted) := by
  simp only [serve, settle, Circuit.acquire, Circuit.refreshed]
  by_cases h : (b.circuit.refresh b.settings.openDuration now).circuit.state = .opened
  · simp only [if_pos h]
    exact .inl ⟨h, _, rfl⟩
  · simp only [if_neg h]
    exact .inr ⟨h, trivial⟩

end CircuitBreaker

namespace Traffic

variable {listener : Type} {t : Traffic listener ε α} {caller : Option Nat} {q : BreakerRequest}
  {n : Nat}

theorem admits_dealing (h : (t.dealing caller q).admits = true) :
    q = .acquire ∧ (t.dealing caller q).found ≠ .opened := by
  obtain ⟨hq, hanswer⟩ := Dealing.admits_iff.mp h
  obtain rfl : q = .acquire := hq
  rcases t.breaker.answer_acquire t.now with ⟨-, e, hrefused⟩ | ⟨hopen, -⟩
  · cases hrefused.symm.trans hanswer
  · exact ⟨rfl, hopen⟩

/-- What the calls have told so far is in order. A busy call, that is being answered, is not yet
looked at. -/
structure Orderly (busy : Option Nat) (t : Traffic listener ε α) : Prop where
  past : ∀ d ∈ t.history, d.time ≤ t.now
  known : ∀ d ∈ t.history, ∀ n, d.caller = some n → n < t.calls.length
  once : (successes t.history).Nodup
  admitted : ∀ n ∈ successes t.history, Admitted t.history 0 n
  told : ∀ n p, busy ≠ some n → t.calls[n]? = some p →
    ∃ progress, Proceeds progress p ∧ progress.Told t.history n

theorem Orderly.initial (b : CircuitBreaker listener) :
    Orderly none ({ breaker := b } : Traffic listener ε α) where
  past _ hd := absurd hd List.not_mem_nil
  known _ hd := absurd hd List.not_mem_nil
  once := List.nodup_nil
  admitted _ hn := absurd hn List.not_mem_nil
  told _ _ _ hp := by cases hp

theorem Orderly.tick (ho : Orderly none t) (d : Duration) :
    Orderly none { t with now := t.now + d } :=
  { ho with past := fun e he => Nat.le_trans (ho.past e he) (Nat.le_add_right _ d) }

theorem Orderly.begin [Classified ε] [Describable ε] (ho : Orderly none t) :
    Orderly none { t with calls := t.calls ++ [GuardedCall.new] } := by
  refine { ho with known := fun d hd n hn => ?known, told := fun n p _ hp => ?told }
  case known =>
    rw [List.length_append]
    exact Nat.lt_add_right 1 (ho.known d hd n hn)
  case told =>
    rcases Nat.lt_or_ge n t.calls.length with hlt | hge
    · rw [List.getElem?_append_left hlt] at hp
      exact ho.told n p nofun hp
    · rw [List.getElem?_append_right hge, List.getElem?_singleton] at hp
      split at hp
      · cases hp
        refine ⟨.outside, proceeds_new, ?_⟩
        intro d hd hn
        exact absurd (ho.known d hd n hn) (Nat.not_lt_of_le hge)
      · cases hp

theorem Orderly.goOn (ho : Orderly (some n) t) {p : GuardedCall ε α} {progress : Progress}
    (hp : Proceeds progress p) (ht : progress.Told t.history n) : Orderly none (t.goOn n p) := by
  refine { ho with known := fun d hd m hm => ?known, told := fun m p' _ hm => ?told }
  case known =>
    rw [Traffic.goOn, List.length_set]
    exact ho.known d hd m hm
  case told =>
    replace hm : (t.calls.set n p)[m]? = some p' := hm
    by_cases hmn : n = m
    · subst hmn
      obtain ⟨hlt, rfl⟩ := List.getElem?_eq_some_iff.mp hm
      rw [List.getElem_set_self]
      exact ⟨progress, hp, ht⟩
    · rw [List.getElem?_set_ne hmn] at hm
      exact ho.told m p' (fun h => hmn (Option.some.inj h)) hm

theorem Orderly.serve (ho : Orderly none t) (hf : (t.dealing caller q).Fair t.history)
    (hk : ∀ n, caller = some n → n < t.calls.length) : Orderly caller (t.serve caller q) := by
  refine ⟨?past, ?known, hf.once ho.once, ?admitted, ?told⟩
  case past =>
    exact List.forall_mem_append.mpr ⟨ho.past, List.forall_mem_singleton.mpr (Nat.le_refl t.now)⟩
  case known =>
    exact List.forall_mem_append.mpr ⟨ho.known, List.forall_mem_singleton.mpr hk⟩
  case admitted =>
    intro n hn
    exact (hf.admitted ho.admitted n hn).mono (List.subset_append_left _ _)
  case told =>
    intro n p hbusy hp
    obtain ⟨progress, hproceeds, ht⟩ := ho.told n p nofun hp
    exact ⟨progress, hproceeds, ht.concat hbusy⟩

/-- A call asks the breaker only for what is fair, and goes on in order with the answer. -/
theorem Orderly.ask (ho : Orderly none t)
    {next : BreakerAnswer → GuardedCall ε α} (hp : t.calls[n]? = some (.ask (.serve q) next)) :
    (t.dealing (some n) q).Fair t.history ∧
      Orderly none ((t.serve (some n) q).goOn n (next (t.dealing (some n) q).answer)) := by
  have hk : ∀ m, some n = some m → m < t.calls.length := by
    rintro _ ⟨⟩
    exact (List.getElem?_eq_some_iff.mp hp).1
  obtain ⟨progress, hproceeds, ht⟩ := ho.told n _ nofun hp
  cases hproceeds with
  | acquire admitted refused =>
    have hf : (t.dealing (some n) .acquire).Fair t.history := .of_not nofun nofun
    have hs := ho.serve hf hk
    refine ⟨hf, ?_⟩
    rcases t.breaker.answer_acquire t.now with ⟨-, e, hanswer⟩ | ⟨-, hanswer⟩
    · rw [show (t.dealing (some n) .acquire).answer = _ from hanswer]
      exact hs.goOn (refused e) trivial
    · rw [show (t.dealing (some n) .acquire).answer = _ from hanswer]
      refine hs.goOn admitted ⟨?_, t.dealing (some n) .acquire, ?_, rfl, ?_, Nat.zero_le _⟩
      · intro hmem
        rcases mem_successes_concat.mp hmem with hmem | ⟨hsucc, -⟩
        · obtain ⟨d, hd, -, hn⟩ := mem_successes.mp hmem
          exact ht d hd hn
        · cases Dealing.succeeds_iff.mp hsucc
      · exact List.mem_append_right _ (List.mem_singleton_self _)
      · exact Dealing.admits_iff.mpr ⟨rfl, hanswer⟩
  | success h =>
    have hf : (t.dealing (some n) .recordSuccess).Fair t.history :=
      ⟨nofun, fun _ => ⟨n, rfl, ht⟩⟩
    exact ⟨hf, (ho.serve hf hk).goOn (h _) trivial⟩
  | failure incident h =>
    have hf : (t.dealing (some n) (.recordFailure incident)).Fair t.history := .of_not nofun nofun
    exact ⟨hf, (ho.serve hf hk).goOn (h _) trivial⟩

/-- A move leaves the breaker alone, or the breaker serves one fair request. -/
inductive Moved (t : Traffic listener ε α) : Traffic listener ε α → Prop where
  | kept {t' : Traffic listener ε α} (hb : t'.breaker = t.breaker) (hh : t'.history = t.history)
      (hnow : t.now ≤ t'.now) : Moved t t'
  | dealt {t' : Traffic listener ε α} (caller : Option Nat) (q : BreakerRequest)
      (hf : (t.dealing caller q).Fair t.history)
      (hb : t'.breaker = (t.breaker.serve t.now q).breaker)
      (hh : t'.history = t.history ++ [t.dealing caller q]) (hnow : t'.now = t.now) : Moved t t'

variable [Classified ε] [Describable ε]

theorem Orderly.move (ho : Orderly none t) (m : Move ε α) :
    Orderly none (t.move m) ∧ Moved t (t.move m) := by
  have hkept : Orderly none t ∧ Moved t t := ⟨ho, .kept rfl rfl (Nat.le_refl t.now)⟩
  have hbusy (n : Nat) : Orderly (some n) t := { ho with told := fun m p _ => ho.told m p nofun }
  cases m with
  | tick d => exact ⟨ho.tick d, .kept rfl rfl (Nat.le_add_right t.now d)⟩
  | begin => exact ⟨ho.begin, .kept rfl rfl (Nat.le_refl t.now)⟩
  | look =>
    have hf : (t.dealing none .observe).Fair t.history := .of_not nofun nofun
    exact ⟨ho.serve hf nofun, .dealt none .observe hf rfl rfl rfl⟩
  | serve n =>
    simp only [Traffic.move]
    split
    · rename_i q next hp
      obtain ⟨hf, ho'⟩ := ho.ask hp
      exact ⟨ho', .dealt (some n) q hf rfl rfl rfl⟩
    · exact hkept
  | finish n result =>
    simp only [Traffic.move]
    split
    · rename_i next hp
      obtain ⟨progress, hproceeds, ht⟩ := ho.told n _ nofun hp
      cases hproceeds with
      | call h => exact ⟨(hbusy n).goOn (h result) ht, .kept rfl rfl (Nat.le_refl t.now)⟩
    · exact hkept
  | tell n cancelled =>
    simp only [Traffic.move]
    split
    · rename_i next hp
      obtain ⟨progress, hproceeds, ht⟩ := ho.told n _ nofun hp
      cases hproceeds with
      | cancelled h => exact ⟨(hbusy n).goOn (h cancelled) ht, .kept rfl rfl (Nat.le_refl t.now)⟩
    · exact hkept

end Traffic

end Delivery
