import Delivery.DeadLetter.PurgeLoop
import Delivery.Proofs.DeadLetter.Purges

/-!
# The schedule of the purge

The loop waits for two things at a time: its next tick, and word from the channel that ends it,
whatever that is. A purge is not broken off: what comes meanwhile is looked at when it is over. The
ticks are counted from the start, so how long a purge takes and how it ends cannot move a later one,
as long as it is over before that is due (`PurgeWorld.round_next`, `PurgeWorld.round_ended`). The
tick at the start itself is passed over: the rounds begin with the first. Main statement:
`PurgeWorld.scheduled_purge`.
-/

namespace Delivery

/-! ### The loop in its surroundings -/

/-- What comes out of the channel that ends the loop. -/
inductive StopNews where
  | signal
  | closed
  | lagged (missed : Nat)
  deriving DecidableEq, Repr

def StopNews.ends : StopNews → Bool
  | signal => true
  | closed => true
  | lagged _ => true

/-- A request that a store is sent, with its time and what the store is like then. -/
structure StoreVisit (σ : Type) where
  time : Instant
  request : StoreRequest
  before : σ

/-- Whatever the loop depends on. -/
structure PurgeWorld (σ : Type) where
  -- How a request ends at a time, what has become of the store by then, and how long it takes.
  answer : Instant → (request : StoreRequest) → σ → Except DeadLetterError request.Reply × σ
  lasts : Instant → StoreRequest → σ → Duration
  wallClock : Instant → Int
  news : StopNews
  stopAt : Instant
  -- Which goes first when the tick and the news are there together.
  tickFirst : Instant → Bool

structure PurgeScene (σ : Type) where
  clock : Instant
  store : σ
  visits : List (StoreVisit σ)

namespace DeadLetterQueue

variable {σ : Type} {q : DeadLetterQueue (StateM σ)} {timer : PurgeTimer (StateM σ)}
  {start : Instant} {round : Nat} {s s' : σ}

/-- The loop from a round on, to the scene in which it returns. -/
inductive Serves (q : DeadLetterQueue (StateM σ)) (timer : PurgeTimer (StateM σ))
    (start : Instant) : Nat → σ → σ → Prop where
  | ended {round : Nat} {s s' : σ} (h : (q.purgeRound timer start round).run s = (.ended, s')) :
      Serves q timer start round s s'
  | next {round later : Nat} {s between s' : σ}
      (h : (q.purgeRound timer start round).run s = (.next later, between))
      (rest : Serves q timer start later between s') : Serves q timer start round s s'

theorem Serves.unique {a b : σ} (ha : q.Serves timer start round s a)
    (hb : q.Serves timer start round s b) : a = b := by
  induction ha with
  | ended h =>
    cases hb with
    | ended h' => exact (Prod.mk.inj (h.symm.trans h')).2
    | next h' _ => cases h.symm.trans h'
  | next h _ ih =>
    cases hb with
    | ended h' => cases h.symm.trans h'
    | next h' rest' =>
      obtain ⟨hround, rfl⟩ := Prod.mk.inj (h.symm.trans h')
      cases hround
      exact ih rest'

theorem Serves.iff_eq (h : q.Serves timer start round s s') (a : σ) :
    q.Serves timer start round s a ↔ a = s' :=
  ⟨fun ha => ha.unique h, fun ha => ha ▸ h⟩

theorem purgeRound_ended
    (h : (timer.wait (q.plan.map fun plan => purgeTick plan start round)).run s = (true, s')) :
    (q.purgeRound timer start round).run s = (.ended, s') := by
  unfold purgeRound
  rw [StateT.run_bind, h]
  rfl

/-- However the purge ends, it is followed by the next round. -/
theorem purgeRound_next
    (h : (timer.wait (q.plan.map fun plan => purgeTick plan start round)).run s = (false, s')) :
    (q.purgeRound timer start round).run s =
      (.next (round + 1), (q.purgeExpired.run.run s').2) := by
  unfold purgeRound
  rw [StateT.run_bind, h]
  show StateT.run (q.purgeExpired.run >>= _) s' = _
  rw [StateT.run_bind]
  rcases q.purgeExpired.run.run s' with ⟨r, s''⟩
  cases r <;> rfl

end DeadLetterQueue

namespace PurgeWorld

variable {σ : Type} (w : PurgeWorld σ)

def after (v : StoreVisit σ) : σ := (w.answer v.time v.request v.before).2

def finish (v : StoreVisit σ) : Instant := v.time + w.lasts v.time v.request v.before

def reading (t : Instant) : Timestamp := { nanos := w.wallClock t }

def store : Store (StateM (PurgeScene σ)) where
  serve request := fun s =>
    let v : StoreVisit σ := ⟨s.clock, request, s.store⟩
    ((w.answer s.clock request s.store).1, ⟨w.finish v, w.after v, s.visits ++ [v]⟩)

def timer : PurgeTimer (StateM (PurgeScene σ)) where
  wait tick := fun s =>
    let told := max s.clock w.stopAt
    match tick with
    | none => (w.news.ends, { s with clock := told })
    | some tick =>
      let due := max s.clock tick
      if due < told ∨ due = told ∧ w.tickFirst due = true then (false, { s with clock := due })
      else (w.news.ends, { s with clock := told })

/-- The queue has its store and its clock from here. -/
structure Hosts (q : DeadLetterQueue (StateM (PurgeScene σ))) : Prop where
  store : q.store = w.store
  wallClock : q.wallClock = fun s => (w.reading s.clock, s)

/-- What is sent to the store when a purge is due at a time. -/
def due (plan : RetentionPlan) (t : Instant) : StoreRequest :=
  .purge ((w.reading t).backFrom plan.retention) false

variable {w} {q : DeadLetterQueue (StateM (PurgeScene σ))} {plan : RetentionPlan}
  {start : Instant} {store : σ}

theorem ends_news : w.news.ends = true := by
  cases w.news <;> rfl

/-! ### One round -/

theorem purgeExpired_run (hq : w.Hosts q) (hplan : q.plan = some plan) (s : PurgeScene σ) :
    (q.purgeExpired.run.run s).2 = ((w.store.serve (w.due plan s.clock)).run s).2 := by
  rw [DeadLetterQueue.purgeExpired, hplan, hq.wallClock]
  simp only [DeadLetterQueue.purge, hq.store]
  rfl

theorem wait_due {s : PurgeScene σ} {tick : Instant} (hclock : s.clock ≤ tick)
    (hstop : tick < w.stopAt) :
    (w.timer.wait (some tick)).run s = (false, { s with clock := tick }) := by
  have hdue : max s.clock tick = tick := Nat.max_eq_right hclock
  have hover : tick < max s.clock w.stopAt := Nat.lt_of_lt_of_le hstop (Nat.le_max_right _ _)
  show (if _ then _ else _) = _
  rw [hdue, if_pos (Or.inl hover)]

theorem wait_over {s : PurgeScene σ} {tick : Instant} (hclock : s.clock < tick)
    (hstop : w.stopAt < tick) :
    (w.timer.wait (some tick)).run s = (true, { s with clock := max s.clock w.stopAt }) := by
  have hdue : max s.clock tick = tick := Nat.max_eq_right (Nat.le_of_lt hclock)
  have hover : max s.clock w.stopAt < tick := Nat.max_lt.mpr ⟨hclock, hstop⟩
  have hnot : ¬ (tick < max s.clock w.stopAt ∨
      tick = max s.clock w.stopAt ∧ w.tickFirst tick = true) :=
    not_or.mpr ⟨Nat.lt_asymm hover, fun htie => Nat.ne_of_gt hover htie.1⟩
  show (if _ then _ else _) = _
  rw [hdue, if_neg hnot, ends_news]

/-! ### All rounds -/

section

variable (w plan start store)

/-- The scene after so many purges, each at its tick. -/
def sceneAfter : Nat → PurgeScene σ
  | 0 => ⟨start, store, []⟩
  | n + 1 =>
    let tick := DeadLetterQueue.purgeTick plan start (n + 1)
    ((w.store.serve (w.due plan tick)).run { sceneAfter n with clock := tick }).2

/-- The purge that follows so many others. -/
def visitAfter (n : Nat) : StoreVisit σ where
  time := DeadLetterQueue.purgeTick plan start (n + 1)
  request := w.due plan (DeadLetterQueue.purgeTick plan start (n + 1))
  before := (w.sceneAfter plan start store n).store

/-- Every purge that comes before the end is over before the next one is due. -/
def Brief : Prop := ∀ n, DeadLetterQueue.purgeTick plan start (n + 1) < w.stopAt →
  w.finish (w.visitAfter plan start store n) < DeadLetterQueue.purgeTick plan start (n + 2)

end

theorem visits_sceneAfter (n : Nat) : (w.sceneAfter plan start store n).visits =
    (List.range n).map (w.visitAfter plan start store) := by
  induction n with
  | zero => rfl
  | succ n ih =>
    rw [List.range_succ, List.map_append, ← ih]
    rfl

theorem clock_lt (hpos : 0 < plan.interval) (hbrief : w.Brief plan start store) {n : Nat}
    (h : n = 0 ∨ DeadLetterQueue.purgeTick plan start n < w.stopAt) :
    (w.sceneAfter plan start store n).clock < DeadLetterQueue.purgeTick plan start (n + 1) := by
  cases n with
  | zero =>
    show start < start + (0 + 1) * plan.interval
    rw [Nat.zero_add, Nat.one_mul]
    exact Nat.lt_add_of_pos_right hpos
  | succ n => exact hbrief n (h.resolve_left (Nat.succ_ne_zero n))

theorem purgeTick_le {k l : Nat} (h : k ≤ l) :
    DeadLetterQueue.purgeTick plan start k ≤ DeadLetterQueue.purgeTick plan start l :=
  Nat.add_le_add_left (Nat.mul_le_mul_right _ h) start

theorem purgeTick_lt (hpos : 0 < plan.interval) {k l : Nat} (h : k < l) :
    DeadLetterQueue.purgeTick plan start k < DeadLetterQueue.purgeTick plan start l :=
  Nat.add_lt_add_left (Nat.mul_lt_mul_of_pos_right h hpos) start

theorem round_next (hq : w.Hosts q) (hplan : q.plan = some plan) (hpos : 0 < plan.interval)
    (hbrief : w.Brief plan start store) {n : Nat}
    (h : DeadLetterQueue.purgeTick plan start (n + 1) < w.stopAt) :
    (q.purgeRound w.timer start (n + 1)).run (w.sceneAfter plan start store n) =
      (.next (n + 2), w.sceneAfter plan start store (n + 1)) := by
  have hbefore := Nat.lt_of_le_of_lt (purgeTick_le (Nat.le_succ n)) h
  have hwait := wait_due (s := w.sceneAfter plan start store n)
    (Nat.le_of_lt (clock_lt hpos hbrief (Or.inr hbefore))) h
  rw [DeadLetterQueue.purgeRound_next (by rw [hplan]; exact hwait), purgeExpired_run hq hplan]
  rfl

theorem round_ended (hplan : q.plan = some plan) (hpos : 0 < plan.interval)
    (hbrief : w.Brief plan start store) {n : Nat}
    (hbefore : n = 0 ∨ DeadLetterQueue.purgeTick plan start n < w.stopAt)
    (h : w.stopAt < DeadLetterQueue.purgeTick plan start (n + 1)) :
    (q.purgeRound w.timer start (n + 1)).run (w.sceneAfter plan start store n) =
      (.ended, { w.sceneAfter plan start store n with
        clock := max (w.sceneAfter plan start store n).clock w.stopAt }) := by
  have hwait := wait_over (clock_lt hpos hbrief hbefore) h
  exact DeadLetterQueue.purgeRound_ended (by rw [hplan]; exact hwait)

/-- The ticks before the end are counted by a division. -/
theorem purgeTick_lt_iff (hpos : 0 < plan.interval)
    (hstop : ∀ k, 1 ≤ k → w.stopAt ≠ DeadLetterQueue.purgeTick plan start k) {k : Nat}
    (hk : 1 ≤ k) : DeadLetterQueue.purgeTick plan start k < w.stopAt ↔
      k ≤ (w.stopAt - start) / plan.interval := by
  have hne := (hstop k hk).symm
  have hmul : 0 < k * plan.interval := Nat.mul_pos hk hpos
  rw [Nat.le_div_iff_mul_le hpos]
  constructor
  · intro hlt
    exact Nat.le_sub_of_add_le' (Nat.le_of_lt hlt)
  · intro hle
    have hstart : start ≤ w.stopAt :=
      Nat.le_of_lt (Nat.lt_of_sub_pos (Nat.lt_of_lt_of_le hmul hle))
    exact Nat.lt_of_le_of_ne (Nat.add_le_of_le_sub' hstart hle) hne

/-- How the loop goes on after so many purges, when so many are still to come. -/
theorem serves_from (hq : w.Hosts q) (hplan : q.plan = some plan) (hpos : 0 < plan.interval)
    (hbrief : w.Brief plan start store) (left : Nat) :
    ∀ n, n = 0 ∨ DeadLetterQueue.purgeTick plan start n < w.stopAt →
      (∀ k, n < k → k ≤ n + left → DeadLetterQueue.purgeTick plan start k < w.stopAt) →
      w.stopAt < DeadLetterQueue.purgeTick plan start (n + left + 1) →
      q.Serves w.timer start (n + 1) (w.sceneAfter plan start store n)
        { w.sceneAfter plan start store (n + left) with
          clock := max (w.sceneAfter plan start store (n + left)).clock w.stopAt } := by
  -- on the purges to come; each round makes one of them
  induction left with
  | zero =>
    intro n hbefore _ hbehind
    exact .ended (round_ended hplan hpos hbrief hbefore hbehind)
  | succ left ih =>
    intro n _ hcome hbehind
    have hnext := hcome (n + 1) (by omega) (by omega)
    have hrest := ih (n + 1) (Or.inr hnext) (fun k hk hle => hcome k (by omega) (by omega))
    rw [Nat.succ_add_eq_add_succ] at hrest
    exact .next (round_next hq hplan hpos hbrief hnext) (hrest hbehind)

/-! ### The schedule -/

/-- A store in memory, on which others may work as well: a purge meets whatever they have made of
it. -/
def InMemory (w : PurgeWorld σ) (view : σ → MemoryStore) : Prop :=
  ∀ t cutoff s, ∃ found : MemoryStore,
    (w.answer t (.purge cutoff false) s).1 =
      .ok (MemoryStore.serve t (.purge cutoff false) found : Nat × MemoryStore).1 ∧
    view (w.answer t (.purge cutoff false) s).2 =
      (MemoryStore.serve t (.purge cutoff false) found).2

/-- What has happened when the loop returns. -/
structure Kept (w : PurgeWorld σ) (plan : RetentionPlan) (start : Instant)
    (final : PurgeScene σ) : Prop where
  -- The store is visited at the ticks between the start and the end, at each of them once.
  times : ∀ t, t ∈ final.visits.map (·.time) ↔
    ∃ k, 1 ≤ k ∧ t = DeadLetterQueue.purgeTick plan start k ∧ t < w.stopAt
  once : (final.visits.map (·.time)).Pairwise (· < ·)
  requests : ∀ v ∈ final.visits,
    v.request = .purge ((w.reading v.time).backFrom plan.retention) false
  returned : start ≤ w.stopAt → (∀ v ∈ final.visits, w.finish v ≤ w.stopAt) →
    final.clock = w.stopAt
  -- A purge that is under way at the end is still finished, and that is before the next tick.
  finished : ∀ v ∈ final.visits, w.stopAt < w.finish v → final.clock = w.finish v
  prompt : ∀ k, 1 ≤ k → w.stopAt < DeadLetterQueue.purgeTick plan start k →
    final.clock < DeadLetterQueue.purgeTick plan start k
  -- Right after a tick nothing is stored that is older than the retention.
  swept : ∀ view, w.InMemory view → ∀ v ∈ final.visits, (w.reading v.time).inCalendar = true →
    ∀ slot ∈ (view (w.after v)).slots, slot.entry.enqueuedAt.inCalendar = true →
      ¬ slot.entry.enqueuedAt.IsOlder plan.retention (w.wallClock v.time)

theorem swept_of_request {view : σ → MemoryStore} (hview : w.InMemory view) {v : StoreVisit σ}
    (hv : v.request = w.due plan v.time) (hnow : (w.reading v.time).inCalendar = true)
    {slot : Slot} (hslot : slot ∈ (view (w.after v)).slots)
    (hdate : slot.entry.enqueuedAt.inCalendar = true) :
    ¬ slot.entry.enqueuedAt.IsOlder plan.retention (w.wallClock v.time) := by
  obtain ⟨found, -, hleft⟩ :=
    hview v.time ((w.reading v.time).backFrom plan.retention) v.before
  rw [after, hv, due, hleft] at hslot
  have hkept := (List.mem_filter.mp hslot).2
  simp only [Timestamp.inCalendar, Bool.and_eq_true, decide_eq_true_eq] at hdate
  rw [← Timestamp.lt_backFrom_iff hdate.1 hnow]
  intro hlt
  have hdue : slot.isDue ((w.reading v.time).backFrom plan.retention) false = true :=
    Slot.isDue_iff.mpr ⟨hlt, Or.inr rfl⟩
  rw [hdue] at hkept
  cases hkept

theorem kept_of_last (hpos : 0 < plan.interval) (hbrief : w.Brief plan start store) {last : Nat}
    (hlast : ∀ {k}, 1 ≤ k → (DeadLetterQueue.purgeTick plan start k < w.stopAt ↔ k ≤ last))
    (hbehind : w.stopAt < DeadLetterQueue.purgeTick plan start (last + 1)) :
    w.Kept plan start { w.sceneAfter plan start store last with
      clock := max (w.sceneAfter plan start store last).clock w.stopAt } := by
  have hvisits : (w.sceneAfter plan start store last).visits =
      (List.range last).map (w.visitAfter plan start store) := visits_sceneAfter last
  have hvisit {v : StoreVisit σ} (hv : v ∈ (w.sceneAfter plan start store last).visits) :
      ∃ n, n < last ∧ v = w.visitAfter plan start store n := by
    rw [hvisits] at hv
    obtain ⟨n, hn, rfl⟩ := List.mem_map.mp hv
    exact ⟨n, List.mem_range.mp hn, rfl⟩
  have hclock : (w.sceneAfter plan start store last).clock <
      DeadLetterQueue.purgeTick plan start (last + 1) :=
    clock_lt hpos hbrief
      ((Nat.eq_zero_or_pos last).imp_right fun h => (hlast h).mpr (Nat.le_refl last))
  have htimes : (w.sceneAfter plan start store last).visits.map (·.time) =
      (List.range last).map fun n => DeadLetterQueue.purgeTick plan start (n + 1) := by
    rw [hvisits, List.map_map]
    rfl
  refine
    { times := fun t => ?_
      once := ?_
      requests := fun v hv => ?_
      returned := fun hstart hover => ?_
      finished := fun v hv hlate => ?_
      prompt := fun k hk hlt => ?_
      swept := fun view hview v hv hnow slot hslot hdate => ?_ }
  · show t ∈ (w.sceneAfter plan start store last).visits.map (·.time) ↔ _
    rw [htimes, List.mem_map]
    constructor
    · rintro ⟨n, hn, rfl⟩
      have hle : n + 1 ≤ last := List.mem_range.mp hn
      exact ⟨n + 1, by omega, rfl, (hlast (by omega)).mpr hle⟩
    · rintro ⟨k, hk, rfl, hlt⟩
      have hle := (hlast hk).mp hlt
      exact ⟨k - 1, List.mem_range.mpr (by omega), by rw [Nat.sub_add_cancel hk]⟩
  · show ((w.sceneAfter plan start store last).visits.map (·.time)).Pairwise (· < ·)
    rw [htimes, List.pairwise_map]
    exact List.pairwise_lt_range.imp fun h => purgeTick_lt hpos (Nat.succ_lt_succ h)
  · obtain ⟨n, -, rfl⟩ := hvisit hv
    rfl
  · refine Nat.max_eq_right ?_
    cases last with
    | zero => exact hstart
    | succ n =>
      refine hover (w.visitAfter plan start store n) ?_
      show _ ∈ (w.sceneAfter plan start store (n + 1)).visits
      rw [hvisits]
      exact List.mem_map.mpr ⟨n, List.mem_range.mpr (Nat.lt_succ_self n), rfl⟩
  · obtain ⟨n, hn, rfl⟩ := hvisit hv
    -- were it not the last one, the next tick would still be before the end
    have heq : last = n + 1 := by
      by_contra hne
      have hnext := (hlast (k := n + 2) (by omega)).mpr (by omega)
      have hover := hbrief n ((hlast (k := n + 1) (by omega)).mpr hn)
      exact Nat.lt_asymm hlate (Nat.lt_trans hover hnext)
    subst heq
    exact Nat.max_eq_left (Nat.le_of_lt hlate)
  · have hle : last + 1 ≤ k := by
      by_contra hnot
      exact Nat.lt_asymm hlt ((hlast hk).mpr (by omega))
    exact Nat.lt_of_lt_of_le (Nat.max_lt.mpr ⟨hclock, hbehind⟩) (purgeTick_le hle)
  · obtain ⟨n, -, rfl⟩ := hvisit hv
    exact swept_of_request hview rfl hnow hslot hdate

/-- How the loop of a queue runs, from the start to its return. -/
structure ScheduledPurge (w : PurgeWorld σ) (q : DeadLetterQueue (StateM (PurgeScene σ)))
    (start : Instant) (store : σ) : Prop where
  planned : ∀ plan, q.plan = some plan → 0 < plan.interval →
    (∀ k, 1 ≤ k → w.stopAt ≠ DeadLetterQueue.purgeTick plan start k) →
    w.Brief plan start store →
    ∃ final, (∀ s, q.Serves w.timer start 1 ⟨start, store, []⟩ s ↔ s = final) ∧
      w.Kept plan start final
  unplanned : q.plan = none → ∀ s, q.Serves w.timer start 1 ⟨start, store, []⟩ s ↔
    s = ⟨max start w.stopAt, store, []⟩

/-- The loop purges at its ticks and at no other time, whatever becomes of the purges, and returns
with the news, whatever they are: at once, or if a purge is under way then, when that purge is over,
which is before the next tick. -/
theorem scheduled_purge (hq : w.Hosts q) (start : Instant) (store : σ) :
    w.ScheduledPurge q start store where
  planned plan hplan hpos hstop hbrief := by
    have hlast {k : Nat} (hk : 1 ≤ k) := purgeTick_lt_iff hpos hstop hk
    generalize (w.stopAt - start) / plan.interval = last at hlast
    have hbehind : w.stopAt < DeadLetterQueue.purgeTick plan start (last + 1) := by
      have hnot : ¬ DeadLetterQueue.purgeTick plan start (last + 1) < w.stopAt := fun h =>
        Nat.not_succ_le_self last ((hlast (Nat.succ_pos last)).mp h)
      exact Nat.lt_of_le_of_ne (Nat.le_of_not_lt hnot) (hstop (last + 1) (Nat.succ_pos last))
    have hserves := serves_from hq hplan hpos hbrief last 0 (Or.inl rfl)
      (fun k hk hle => (hlast hk).mpr (by omega)) (by rwa [Nat.zero_add])
    simp only [Nat.zero_add] at hserves
    exact ⟨_, hserves.iff_eq, kept_of_last hpos hbrief hlast hbehind⟩
  unplanned hplan := by
    have hwait : (w.timer.wait none).run ⟨start, store, []⟩ =
        (true, ⟨max start w.stopAt, store, []⟩) := by
      show (w.news.ends, _) = _
      rw [ends_news]
    exact (DeadLetterQueue.Serves.ended
      (DeadLetterQueue.purgeRound_ended (by rw [hplan]; exact hwait))).iff_eq

/-- A store in memory, where the requests of some times fail and each takes three nanoseconds. -/
def threeTicks (fails : Instant → Bool) (stopAt : Instant) : PurgeWorld MemoryStore where
  answer t request s :=
    if fails t then (.error (.timeout request.name "memory" 3), s)
    else (.ok (MemoryStore.serve t request s).1, (MemoryStore.serve t request s).2)
  lasts _ _ _ := 3
  wallClock t := 100000000000 - 25 + t
  news := .closed
  stopAt := stopAt
  tickFirst _ := false

/-- Forty seconds, and a tick every ten nanoseconds. -/
def shortPlan : RetentionPlan := ⟨Duration.ofSeconds 40, 10⟩

def queue (w : PurgeWorld σ) (plan : Option RetentionPlan) :
    DeadLetterQueue (StateM (PurgeScene σ)) where
  store := w.store
  handler := none
  plan := plan
  newId := pure ⟨0⟩
  wallClock := fun s => (w.reading s.clock, s)
  claims := ⟨fun _ => pure (), fun _ => pure (), fun _ => pure ()⟩

theorem hosts_queue (w : PurgeWorld σ) (plan : Option RetentionPlan) : w.Hosts (w.queue plan) :=
  ⟨rfl, rfl⟩

section

variable {fails : Instant → Bool} {stopAt : Nat}

theorem inMemory_threeTicks : (threeTicks (fun _ => false) stopAt).InMemory id :=
  fun _ _ s => ⟨s, rfl, rfl⟩

theorem stopAt_ne_threeTicks (hafter : 30 < stopAt) (hbefore : stopAt < 40) (k : Nat) (_ : 1 ≤ k) :
    (threeTicks fails stopAt).stopAt ≠ DeadLetterQueue.purgeTick shortPlan 0 k := by
  intro h
  have htick : stopAt = 0 + k * 10 := h
  omega

theorem brief_threeTicks (s : MemoryStore) : (threeTicks fails stopAt).Brief shortPlan 0 s := by
  intro n _
  show 0 + (n + 1) * 10 + 3 < 0 + (n + 2) * 10
  omega

theorem serves_threeTicks (hafter : 30 < stopAt) (hbefore : stopAt < 40) (s : MemoryStore) :
    let w := threeTicks fails stopAt
    (w.queue (some shortPlan)).Serves w.timer 0 1 ⟨0, s, []⟩
      { w.sceneAfter shortPlan 0 s 3 with clock := max 33 stopAt } := by
  intro w
  refine serves_from (w.hosts_queue (some shortPlan)) rfl (by decide) (brief_threeTicks s) 3 0
    (Or.inl rfl) (fun k _ hk => ?_) hbefore
  show 0 + k * 10 < stopAt
  omega

end

/-- All dead letters but the oldest come of age between the second tick and the third. At the second
one the store of the first loop fails; that of the second loop never does. The channel is closed
between two ticks, and for the third loop while the purge of the third tick is under way. -/
theorem scheduled_purge_threeTicks :
    let w := threeTicks (· == 20) 36
    let calm := threeTicks (fun _ => false) 36
    let late := threeTicks (fun _ => false) 32
    w.Hosts (w.queue (some shortPlan)) ∧ w.Brief shortPlan 0 MemoryStore.backlog ∧
      (∃ final, (w.queue (some shortPlan)).Serves w.timer 0 1 ⟨0, MemoryStore.backlog, []⟩ final ∧
        w.Kept shortPlan 0 final ∧ final.visits.map (·.time) = [10, 20, 30] ∧
        final.clock = 36 ∧ final.store = { slots := [] }) ∧
      (w.queue none).Serves w.timer 0 1 ⟨0, MemoryStore.backlog, []⟩ ⟨36, MemoryStore.backlog, []⟩ ∧
      (calm.InMemory id ∧ ∃ final, calm.Kept shortPlan 0 final ∧ ∃ v ∈ final.visits, v.time = 20 ∧
        (calm.after v).slots = MemoryStore.backlog.slots.take 3 ∧
        ∀ slot ∈ (calm.after v).slots, slot.entry.enqueuedAt.inCalendar = true →
          ¬ slot.entry.enqueuedAt.IsOlder shortPlan.retention 99999999995) ∧
      ∃ final, (late.queue (some shortPlan)).Serves late.timer 0 1 ⟨0, MemoryStore.backlog, []⟩
          final ∧
        late.Kept shortPlan 0 final ∧ ∃ v ∈ final.visits, v.time = 30 ∧ 32 < late.finish v ∧
          late.finish v = 33 ∧ final.clock = 33 := by
  intro w calm late
  -- the three loops pass the same ticks and differ in what their purges do and when they end
  have hrun (fails : Instant → Bool) {stopAt : Nat} (hafter : 30 < stopAt) (hbefore : stopAt < 40) :
      let world := threeTicks fails stopAt
      let final :=
        { world.sceneAfter shortPlan 0 MemoryStore.backlog 3 with clock := max 33 stopAt }
      (world.queue (some shortPlan)).Serves world.timer 0 1 ⟨0, MemoryStore.backlog, []⟩ final ∧
        world.Kept shortPlan 0 final := by
    intro world final
    obtain ⟨scene, hscene, hkept⟩ :=
      (scheduled_purge (world.hosts_queue (some shortPlan)) 0 MemoryStore.backlog).planned shortPlan
        rfl (by decide) (stopAt_ne_threeTicks hafter hbefore) (brief_threeTicks _)
    obtain rfl := (hscene final).mp (serves_threeTicks hafter hbefore MemoryStore.backlog)
    exact ⟨(hscene final).mpr rfl, hkept⟩
  have hvisit (world : PurgeWorld MemoryStore) {n : Nat} (hn : n < 3) :
      world.visitAfter shortPlan 0 MemoryStore.backlog n ∈
        (world.sceneAfter shortPlan 0 MemoryStore.backlog 3).visits := by
    rw [visits_sceneAfter]
    exact List.mem_map.mpr ⟨n, List.mem_range.mpr hn, rfl⟩
  obtain ⟨hserves, hkept⟩ := hrun (· == 20) (by decide : 30 < 36) (by decide)
  obtain ⟨-, hkeptCalm⟩ := hrun (fun _ => false) (by decide : 30 < 36) (by decide)
  obtain ⟨hservesLate, hkeptLate⟩ := hrun (fun _ => false) (by decide : 30 < 32) (by decide)
  have hsecond := hvisit calm (by decide : 1 < 3)
  have hthird := hvisit late (by decide : 2 < 3)
  exact ⟨w.hosts_queue _, brief_threeTicks _, ⟨_, hserves, hkept, rfl, rfl, by decide +kernel⟩,
    ((scheduled_purge (w.hosts_queue none) 0 MemoryStore.backlog).unplanned rfl _).mpr rfl,
    ⟨inMemory_threeTicks, _, hkeptCalm, _, hsecond, rfl, by decide +kernel,
      hkeptCalm.swept id inMemory_threeTicks _ hsecond (by decide)⟩,
    _, hservesLate, hkeptLate, _, hthird, rfl, by decide, rfl,
    hkeptLate.finished _ hthird (by decide)⟩

end PurgeWorld

end Delivery
