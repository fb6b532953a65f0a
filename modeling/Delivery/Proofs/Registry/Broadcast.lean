import Delivery.Proofs.Registry.Forwarding

/-!
# What the listeners of a registry hear

The listeners of a registry are kept as those of a breaker are, so which ones it has follows from
the subscriptions in a run alone. Each of them is told of every change that is made while it is
subscribed, once, by whatever circuit, and of no others (`Registry.overhears`).
-/

namespace Delivery

variable {listener : Type}

/-! ### The listeners of the registry -/

/-- What a request does to the listeners of the registry. -/
def RegistryRequest.boardAct? : RegistryRequest listener → Option (BreakerAct listener)
  | .subscribeAll l => some (.subscribe l)
  | .unsubscribeAll id => some (.unsubscribe id)
  | _ => none

def boardRun (run : RegistryLog listener) : BreakerRun listener :=
  run.filterMap fun e => e.2.boardAct?.map (e.1, ·)

namespace Registry

variable {r : Registry listener}

/-- The listeners of a registry are kept as those of a breaker are. -/
def board (r : Registry listener) : CircuitBreaker listener where
  name := ""
  settings := {}
  listeners := r.listeners
  nextSubscription := r.nextSubscription

theorem board_performAll (r : Registry listener) (now : Instant)
    (deeds : List (BreakerDeed listener)) : (r.performAll now deeds).board = r.board :=
  performAll_keeps (P := fun r' => r'.board = r.board) rfl fun _ h _ _ => h

theorem board_carryOut (r : Registry listener) (now : Instant) (q : RegistryRequest listener) :
    (r.carryOut now q).registry.board =
      (q.boardAct?.map (r.board.perform now)).getD r.board := by
  cases hq : q.isForBreakers with
  | true =>
    have hact : q.boardAct? = none := by cases q <;> first | rfl | cases hq
    rw [carryOut_deeds r now hq, board_performAll, hact]
    rfl
  | false =>
    have hfiled := r.filed now hq
    generalize (r.carryOut now q).registry = r' at hfiled
    cases hfiled with
    | same q hjoin hleave =>
      have hact : q.boardAct? = none := by
        cases q with
        | subscribeAll l => exact absurd rfl (hjoin l)
        | unsubscribeAll id => exact absurd rfl (hleave id)
        | _ => rfl
      rw [hact]
      rfl
    | _ => rfl

theorem listeners_carryOut (r : Registry listener) (now : Instant)
    (q : RegistryRequest listener) : (r.carryOut now q).registry.listeners =
      ((q.boardAct?.map (r.board.perform now)).getD r.board).listeners :=
  congrArg CircuitBreaker.listeners (r.board_carryOut now q)

theorem board_after (r : Registry listener) (run : RegistryLog listener) :
    (r.after run).board = r.board.after (boardRun run) := by
  induction run generalizing r with
  | nil => rfl
  | cons e rest ih =>
    rw [after_cons, ih, board_carryOut]
    cases hact : e.2.boardAct? with
    | none =>
      have hrun : boardRun (e :: rest) = boardRun rest :=
        List.filterMap_cons_none (by rw [hact]; rfl)
      rw [hrun]
      rfl
    | some act =>
      have hrun : boardRun (e :: rest) = (e.1, act) :: boardRun rest :=
        List.filterMap_cons_some (by rw [hact]; rfl)
      rw [hrun]
      rfl

/-- Which listeners a registry has follows from the subscriptions in the run alone. -/
theorem listeners_eq_standing {settings : RegistrySettings} (h : create settings = .ok r)
    (run : RegistryLog listener) : (r.after run).listeners = standing 1 (boardRun run) := by
  obtain ⟨s, -, hr⟩ := bind_eq_ok_iff.mp h
  cases hr
  have hboard := congrArg CircuitBreaker.listeners
    (board_after ({ settings := s } : Registry listener) run)
  rw [CircuitBreaker.listeners_after] at hboard
  exact hboard

/-- A request makes each of its changes known to the listeners that the registry has at that moment,
and then to those of the breaker, once for each subscription and in the order in which they were
made. -/
structure Announced (r : Registry listener) (before : RegistryLog listener)
    (e : Instant × RegistryRequest listener) : Prop where
  notices : ((r.after before).carryOut e.1 e.2).notices.map (e.1, ·) =
    ((r.after before).changesAll e.1 ((r.after before).deeds e.2)).flatMap fun c =>
      (standing 1 (boardRun before) ++
        ((r.after before).breakers[c.1]?.map Breaker.privates).getD []).map fun sub =>
          (c.2.1, ⟨sub.2, c.2.2⟩)
  oldest : (standing 1 (boardRun before)).Pairwise fun a b => a.1 < b.1

section Creation

variable {settings : RegistrySettings}

theorem wired_of_create (h : create settings = .ok r) : r.Wired := by
  obtain ⟨s, -, hr⟩ := bind_eq_ok_iff.mp h
  cases hr
  exact nofun

theorem announced_of_create (h : create settings = .ok r) {before : RegistryLog listener}
    (hown : ∀ e ∈ before, ∀ n, e.2 ≠ .unsubscribe n 1) (e : Instant × RegistryRequest listener) :
    r.Announced before e := by
  refine ⟨?_, standing_increasing 1 (boardRun before)⟩
  rw [notices_carryOut ((wired_of_create h).after hown), ← listeners_eq_standing h before]
  rfl

end Creation

/-! ### What one listener hears -/

end Registry

variable [DecidableEq listener]

/-- A request that subscribes the listener, at the registry or at one of its breakers. -/
def RegistryRequest.attaches (l : listener) : RegistryRequest listener → Bool
  | .subscribeAll l' => l' = l
  | .subscribe _ l' => l' = l
  | _ => false

namespace Registry

variable {r : Registry listener}

/-- The listener has these subscriptions at the registry, and none at a breaker. -/
structure Heeds (l : listener) (ids : List Nat) (r : Registry listener) : Prop where
  all : (r.listeners.filter (·.2 = l)).map (·.1) = ids
  nowhere : ∀ b ∈ r.breakers, ∀ sub ∈ b.privates, sub.2 ≠ l

namespace Heeds

variable {l : listener} {ids : List Nat} {q : RegistryRequest listener}

theorem count (h : r.Heeds l ids) (n : Nat) :
    (r.hearers n).countP (·.2 = l) = ids.length := by
  have hprivate : ((r.breakers[n]?.map Breaker.privates).getD []).countP (·.2 = l) = 0 := by
    rw [List.countP_eq_zero]
    cases hb : r.breakers[n]? with
    | none => exact nofun
    | some b => exact fun sub hsub => by simpa using h.nowhere b (List.mem_of_getElem? hb) sub hsub
  rw [hearers, List.countP_append, hprivate, List.countP_eq_length_filter, ← h.all,
    List.length_map, Nat.add_zero]

/-- Of every change the listener hears as often as it is subscribed. -/
theorem heard_telling (h : r.Heeds l ids) (changes : RegistryHistory) :
    CircuitBreaker.heard l (changes.flatMap r.telling) =
      changes.flatMap fun c => List.replicate ids.length c.2 := by
  induction changes with
  | nil => rfl
  | cons c rest ih =>
    rw [List.flatMap_cons, List.flatMap_cons, CircuitBreaker.heard_append, ih, telling,
      CircuitBreaker.heard_change, h.count]

theorem nowhere_carryOut (h : r.Heeds l ids) (now : Instant) (hq : ∀ n, q ≠ .subscribe n l) :
    ∀ b ∈ (r.carryOut now q).registry.breakers, ∀ sub ∈ b.privates, sub.2 ≠ l := by
  refine all_carryOut h.nowhere (fun name s => ?_) fun d hd b hb sub hsub => ?_
  · rw [Breaker.privates_newborn]
    exact nofun
  · rcases Breaker.mem_privates_perform hsub with hold | hact
    · exact hb sub hold
    · rintro rfl
      exact hq d.1 ((act_of_mem_deeds hd).2.2 sub.2 hact)

/-- A request that neither makes a subscription of the listener nor ends one. -/
theorem carryOut (h : r.Heeds l ids) (now : Instant) (hno : q.attaches l = false)
    (hend : ∀ id ∈ ids, q ≠ .unsubscribeAll id) :
    (r.carryOut now q).registry.Heeds l ids := by
  have hone : ∀ n, q ≠ .subscribe n l := by
    rintro n rfl
    simp [RegistryRequest.attaches] at hno
  refine ⟨?_, h.nowhere_carryOut now hone⟩
  rw [listeners_carryOut]
  cases q with
  | subscribeAll l' =>
    have hne : l' ≠ l := of_decide_eq_false hno
    show ((r.listeners ++ [(r.nextSubscription, l')]).filter (·.2 = l)).map (·.1) = ids
    rw [List.filter_append, List.filter_cons_of_neg (by simpa using hne), List.filter_nil,
      List.append_nil]
    exact h.all
  | unsubscribeAll id =>
    show ((r.listeners.filter (·.1 != id)).filter (·.2 = l)).map (·.1) = ids
    rw [List.filter_filter]
    refine Eq.trans (congrArg _ (List.filter_congr fun sub hsub => ?_)) h.all
    by_cases hl : sub.2 = l
    · have hmem : sub.1 ∈ ids := by
        rw [← h.all]
        exact List.mem_map_of_mem (List.mem_filter.mpr ⟨hsub, by simpa using hl⟩)
      have hne : sub.1 ≠ id := fun heq => hend sub.1 hmem (by rw [heq])
      simp [hl, hne]
    · simp [hl]
  | _ => exact h.all

theorem subscribeAll (h : r.Heeds l []) (now : Instant) :
    (r.carryOut now (.subscribeAll l)).registry.Heeds l [(r.subscribeAll l).1] := by
  refine ⟨?_, h.nowhere_carryOut now nofun⟩
  show ((r.listeners ++ [(r.nextSubscription, l)]).filter (·.2 = l)).map (·.1) = _
  rw [List.filter_append, List.map_append, h.all, List.filter_cons_of_pos (by simp)]
  rfl

theorem unsubscribeAll {id : Nat} (h : r.Heeds l [id]) (now : Instant) :
    (r.carryOut now (.unsubscribeAll id)).answer = .unsubscribed true ∧
      (r.carryOut now (.unsubscribeAll id)).registry.Heeds l [] := by
  have hmem : ∀ sub ∈ r.listeners, sub.2 = l → sub.1 = id := fun sub hsub hl => by
    have hin : sub.1 ∈ (r.listeners.filter (·.2 = l)).map (·.1) :=
      List.mem_map_of_mem (List.mem_filter.mpr ⟨hsub, by simpa using hl⟩)
    rw [h.all] at hin
    exact List.mem_singleton.mp hin
  refine ⟨?_, ?_, h.nowhere_carryOut now nofun⟩
  · have hin : id ∈ (r.listeners.filter (·.2 = l)).map (·.1) := by
      rw [h.all]
      exact List.mem_singleton.mpr rfl
    obtain ⟨sub, hsub, rfl⟩ := List.mem_map.mp hin
    have hany : r.listeners.any (·.1 == sub.1) = true :=
      List.any_eq_true.mpr ⟨sub, (List.mem_filter.mp hsub).1, beq_self_eq_true _⟩
    exact congrArg RegistryAnswer.unsubscribed hany
  · show ((r.listeners.filter (·.1 != id)).filter (·.2 = l)).map (·.1) = []
    rw [List.filter_filter, List.map_eq_nil_iff, List.filter_eq_nil_iff]
    intro sub hsub
    by_cases hl : sub.2 = l
    · simp [hmem sub hsub hl]
    · simp [hl]

/-- In a run that does not concern its subscriptions the listener hears of all changes. -/
theorem heard_record (h : r.Heeds l ids) (hwired : r.Wired) {run : RegistryLog listener}
    (hown : ∀ e ∈ run, ∀ n, e.2 ≠ .unsubscribe n 1)
    (hquiet : ∀ e ∈ run, e.2.attaches l = false)
    (hstays : ∀ e ∈ run, ∀ id ∈ ids, e.2 ≠ .unsubscribeAll id) :
    CircuitBreaker.heard l (r.record run) =
        ((r.history run).flatMap fun c => List.replicate ids.length c.2) ∧
      (r.after run).Heeds l ids := by
  induction run generalizing r with
  | nil => exact ⟨rfl, h⟩
  | cons e rest ih =>
    obtain ⟨hown, hownRest⟩ := List.forall_mem_cons.mp hown
    obtain ⟨hno, hquietRest⟩ := List.forall_mem_cons.mp hquiet
    obtain ⟨hstay, hstaysRest⟩ := List.forall_mem_cons.mp hstays
    obtain ⟨hheard, hafter⟩ := ih (h.carryOut e.1 hno hstay) (hwired.carryOut hown)
      hownRest hquietRest hstaysRest
    refine ⟨?_, hafter⟩
    rw [record, CircuitBreaker.heard_append, notices_carryOut hwired, h.heard_telling, hheard,
      history, List.flatMap_append]

end Heeds

/-! ### Runs from the creation of a registry -/

/-- A listener that is attached once in a run, at the registry. It may leave again. -/
structure AttachedOnce (l : listener) (id : Nat) (before during behind : RegistryLog listener) :
    Prop where
  elsewhere : ∀ e ∈ before ++ (during ++ behind), e.2.attaches l = false
  stays : ∀ e ∈ during, e.2 ≠ .unsubscribeAll id
  leaves : behind = [] ∨ ∃ t rest, behind = (t, .unsubscribeAll id) :: rest

/-- A listener has heard in a run what happened in the part of it that began at the registry `r`. -/
structure Overheard (l : listener) (id : Nat) (record : List (Instant × Notice listener))
    (r : Registry listener) (during : RegistryLog listener) : Prop where
  -- It was told of all changes of this part, each once and in their order, and of no others.
  heard : CircuitBreaker.heard l record = (r.history during).map (·.2)
  -- These are, for every breaker, all steps from its stored circuit at the start to the one at the
  -- end; a breaker that is made on the way starts with a new circuit.
  course : ∀ n, Passage (r.circuitAt n) ((r.history during).own n) ((r.after during).circuitAt n)
  -- None of them is one of a breaker that is always closed.
  circuits : ∀ c ∈ r.history during, (r.after during).Bears c
  -- The subscription is still there to be ended.
  ended : ∀ t, ((r.after during).carryOut t (.unsubscribeAll id)).answer = .unsubscribed true

namespace Heeds

variable {l : listener} {run : RegistryLog listener}

theorem of_create {settings : RegistrySettings} (h : create settings = .ok r) (l : listener) :
    r.Heeds l [] := by
  obtain ⟨s, -, hr⟩ := bind_eq_ok_iff.mp h
  cases hr
  exact ⟨rfl, nofun⟩

theorem heard_nothing (h : r.Heeds l []) (hwired : r.Wired)
    (hown : ∀ e ∈ run, ∀ n, e.2 ≠ .unsubscribe n 1)
    (hquiet : ∀ e ∈ run, e.2.attaches l = false) :
    CircuitBreaker.heard l (r.record run) = [] ∧ (r.after run).Heeds l [] := by
  obtain ⟨hheard, hafter⟩ := h.heard_record hwired hown hquiet fun _ _ => nofun
  refine ⟨hheard.trans ?_, hafter⟩
  simp

theorem heard_everything {id : Nat} (h : r.Heeds l [id]) (hwired : r.Wired)
    (hown : ∀ e ∈ run, ∀ n, e.2 ≠ .unsubscribe n 1)
    (hquiet : ∀ e ∈ run, e.2.attaches l = false)
    (hstays : ∀ e ∈ run, e.2 ≠ .unsubscribeAll id) :
    CircuitBreaker.heard l (r.record run) = (r.history run).map (·.2) ∧
      (r.after run).Heeds l [id] := by
  have hstay : ∀ e ∈ run, ∀ id' ∈ [id], e.2 ≠ .unsubscribeAll id' := fun e he id' hid => by
    rw [List.mem_singleton.mp hid]
    exact hstays e he
  obtain ⟨hheard, hafter⟩ := h.heard_record hwired hown hquiet hstay
  exact ⟨hheard.trans List.map_eq_flatMap.symm, hafter⟩

/-- After its subscription has ended, a listener hears no more. -/
theorem heard_behind {id : Nat} (h : r.Heeds l [id]) (hwired : r.Wired)
    (hown : ∀ e ∈ run, ∀ n, e.2 ≠ .unsubscribe n 1)
    (hquiet : ∀ e ∈ run, e.2.attaches l = false)
    (hleaves : run = [] ∨ ∃ t rest, run = (t, .unsubscribeAll id) :: rest) :
    CircuitBreaker.heard l (r.record run) = [] := by
  rcases hleaves with rfl | ⟨t, rest, rfl⟩
  · rfl
  · obtain ⟨hfirst, hownRest⟩ := List.forall_mem_cons.mp hown
    obtain ⟨-, hquietRest⟩ := List.forall_mem_cons.mp hquiet
    obtain ⟨-, hgone⟩ := h.unsubscribeAll t
    exact (hgone.heard_nothing (hwired.carryOut hfirst) hownRest hquietRest).1

end Heeds

/-- Provided that subscriptions of a breaker are ended by those only who made them, every change of
a circuit is told to all listeners that its registry has at that moment; and a listener of the
registry has heard, when it leaves, the changes of all circuits since it came. -/
theorem overhears {settings : RegistrySettings} (h : create settings = .ok r)
    {run : RegistryLog listener} (hown : r.endsOwn [] run = true) :
    (∀ before e behind, run = before ++ e :: behind → r.Announced before e) ∧
    ∀ before t l during behind, run = before ++ (t, .subscribeAll l) :: (during ++ behind) →
      AttachedOnce l ((r.after before).subscribeAll l).1 before during behind →
      Overheard l ((r.after before).subscribeAll l).1 (r.record run)
        ((r.after before).subscribeAll l).2 during := by
  have hforeign := ne_unsubscribe_one (wired_of_create h)
    (fun _ hp => absurd hp List.not_mem_nil) hown
  constructor
  · rintro before e behind rfl
    exact announced_of_create h (fun e' he' => hforeign e' (List.mem_append_left _ he')) e
  rintro before t l during behind rfl ⟨helsewhere, hstays, hleaves⟩
  -- Each part of the run keeps to what the whole run keeps to.
  obtain ⟨hownBefore, hownRest⟩ := List.forall_mem_append.mp hforeign
  obtain ⟨hownJoin, hownRest⟩ := List.forall_mem_cons.mp hownRest
  obtain ⟨hownDuring, hownBehind⟩ := List.forall_mem_append.mp hownRest
  obtain ⟨hbefore, hrest⟩ := List.forall_mem_append.mp helsewhere
  obtain ⟨hduring, hbehind⟩ := List.forall_mem_append.mp hrest
  have hwired := wired_of_create h
  have hwiredBefore := hwired.after hownBefore
  have hwiredJoin : ((r.after before).carryOut t (.subscribeAll l)).registry.Wired :=
    hwiredBefore.carryOut hownJoin
  have hwiredDuring := hwiredJoin.after hownDuring
  obtain ⟨hheardBefore, hheedsBefore⟩ :=
    (Heeds.of_create h l).heard_nothing hwired hownBefore hbefore
  have hheedsJoin := hheedsBefore.subscribeAll t
  obtain ⟨hheardDuring, hheedsDuring⟩ :=
    hheedsJoin.heard_everything hwiredJoin hownDuring hduring hstays
  have hheardBehind := hheedsDuring.heard_behind hwiredDuring hownBehind hbehind hleaves
  refine ⟨?_, passage_of_run _ during, fun c hc => bears_history hc,
    fun u => (hheedsDuring.unsubscribeAll u).1⟩
  show CircuitBreaker.heard l (r.record _) = _
  rw [record_append, CircuitBreaker.heard_append, hheardBefore, List.nil_append, record,
    CircuitBreaker.heard_append, record_append, CircuitBreaker.heard_append, hheardDuring,
    hheardBehind, List.append_nil]
  rfl

/-- What a listener hears that comes after a circuit has opened: the rest of its course, though it is
taken out of the registry, and the whole course of a circuit that is made later, but nothing of a
breaker that is always closed and nothing after it has left. -/
theorem overhears_latecomer :
    let settings : RegistrySettings := { defaults := { failureThreshold := 1, openDurationMs := 1 } }
    let r : Registry Nat := { settings }
    let before : RegistryLog Nat :=
      [(0, .getOrCreate "a" none), (0, .getOrCreate "b" (some { enabled := false })),
       (0, .serve 0 (.recordFailure none)), (0, .subscribe 0 5)]
    let during : RegistryLog Nat :=
      [(1, .remove "a"), (1, .getOrCreate "a" none), (1, .getOrCreate "c" none),
       (2, .serve 1 (.recordFailure none)), (3, .serve 3 (.recordFailure none)),
       (4, .unsubscribe 0 2), (2000000, .serve 0 .acquire), (2000000, .resetAll)]
    let behind : RegistryLog Nat :=
      [(2000001, .unsubscribeAll 1), (2000002, .serve 2 (.recordFailure none))]
    let run := before ++ (1, .subscribeAll 7) :: (during ++ behind)
    create settings = .ok r ∧ r.endsOwn [] run = true ∧ AttachedOnce 7 1 before during behind ∧
      Overheard 7 1 (r.record run) ((r.after before).subscribeAll 7).2 during ∧
      CircuitBreaker.heard 7 (r.record run) =
        [(3, ⟨"c", ⟨.closed, .opened, none⟩⟩),
         (2000000, ⟨"a", ⟨.opened, .halfOpen, none⟩⟩),
         (2000000, ⟨"c", ⟨.opened, .halfOpen, none⟩⟩),
         (2000000, ⟨"c", ⟨.halfOpen, .closed, none⟩⟩)] := by
  intro settings r before during behind run
  have hcreate : create settings = .ok r := rfl
  have hown : r.endsOwn [] run = true := by decide +kernel
  have honce : AttachedOnce 7 1 before during behind :=
    ⟨by decide, by decide, Or.inr ⟨_, _, rfl⟩⟩
  have hheard : Overheard 7 1 (r.record run) ((r.after before).subscribeAll 7).2 during := by
    have hid : ((r.after before).subscribeAll 7).1 = 1 := by decide +kernel
    have hall := (overhears hcreate hown).2 before 1 7 during behind rfl
    rw [hid] at hall
    exact hall honce
  refine ⟨hcreate, hown, honce, hheard, ?_⟩
  decide +kernel

end Registry

end Delivery
