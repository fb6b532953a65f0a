import Delivery.Proofs.Breaker.Moves

/-!
# What the listeners of a breaker are told

A listener that is subscribed at every request of a run has heard, at the end of it, the whole
history of the circuit: its changes of state one after the other, from closed to the state that is
stored (`after_told`). Each of them goes along one of five edges. An open circuit closes without
having been half-open only if it is reset within its open period. Only a failure that is noted
opens a circuit, and it is the cause that the listeners are given.

Every change is told to the subscriptions that stand at that moment, each once, the oldest first.
Which ones stand follows from the subscriptions and their ends in the run alone (`standing`).
-/

namespace Delivery

/-! ### Histories -/

abbrev History := List (Instant × StateChange)

/-- Every change starts in the state in which the one before it has ended. -/
def Linked : CircuitState → History → CircuitState → Prop
  | first, [], last => first = last
  | first, e :: h, last => e.2.shift.previous = first ∧ Linked e.2.shift.current h last

namespace Shift

def edges : List (CircuitState × CircuitState) :=
  [(.closed, .opened), (.opened, .halfOpen), (.halfOpen, .opened), (.halfOpen, .closed),
   (.opened, .closed)]

/-- There is no way from closed to half-open, and none from a state to itself. -/
def IsEdge (s : Shift) : Prop := (s.previous, s.current) ∈ edges

instance (s : Shift) : Decidable s.IsEdge :=
  inferInstanceAs (Decidable ((s.previous, s.current) ∈ edges))

def opens (s : Shift) : Bool := s.current = .opened

end Shift

/-- When the circuit last opened. -/
def lastOpening (h : History) : Option Instant :=
  (h.filter (·.2.shift.opens)).getLast?.map (·.1)

def openings (h : History) : Nat := h.countP (·.2.shift.opens)

theorem linked_append {first middle last : CircuitState} {h h' : History}
    (hl : Linked first h middle) (hl' : Linked middle h' last) : Linked first (h ++ h') last := by
  induction h generalizing first with
  | nil =>
    cases hl
    exact hl'
  | cons e h ih => exact ⟨hl.1, ih hl.2⟩

theorem lastOpening_append_none {h h' : History} (hno : ∀ e ∈ h', e.2.shift.opens = false) :
    lastOpening (h ++ h') = lastOpening h := by
  have hnil : h'.filter (·.2.shift.opens) = [] := by
    rw [List.filter_eq_nil_iff]
    intro e he
    simp [hno e he]
  simp only [lastOpening, List.filter_append, hnil, List.append_nil]

theorem lastOpening_concat {h : History} {now : Instant} {c : StateChange}
    (hc : c.shift.opens = true) : lastOpening (h ++ [(now, c)]) = some now := by
  simp [lastOpening, List.filter_append, hc]

/-- The changes that some shifts made at one reading are. -/
def changesAt (name : String) (now : Instant) (shifts : List Shift) : History :=
  shifts.map fun s => (now, ⟨name, s⟩)

/-! ### From one stored circuit to another -/

/-- Unless the circuit is closed, what is stored is when it last opened in its history. -/
def Circuit.Dated (c : Circuit) (h : History) : Prop :=
  c.state ≠ .closed → ∃ start, c.openedAt = some start ∧ lastOpening h = some start

/-- The history that leads from one stored circuit to another. -/
structure Passage (c : Circuit) (h : History) (c' : Circuit) : Prop where
  linked : Linked c.state h c'.state
  edges : ∀ e ∈ h, e.2.shift.IsEdge
  openings : c'.timesOpened = c.timesOpened + openings h
  dated : ∀ before, c.Dated before → c'.Dated (before ++ h)

namespace Passage

variable {c c' c'' : Circuit} {h h' : History} {s : BreakerSettings} {now : Instant}
  {q : BreakerRequest} {shifts : List Shift}

theorem of_same (hstate : c'.state = c.state) (htimes : c'.timesOpened = c.timesOpened)
    (hat : c.state ≠ .closed → c'.openedAt = c.openedAt) : Passage c [] c' := by
  refine ⟨hstate.symm, nofun, htimes, ?_⟩
  intro before hd hne
  rw [hstate] at hne
  rw [hat hne, List.append_nil]
  exact hd hne

theorem trans (p : Passage c h c') (p' : Passage c' h' c'') : Passage c (h ++ h') c'' := by
  refine ⟨linked_append p.linked p'.linked, ?_, ?_, ?_⟩
  · intro e he
    rcases List.mem_append.mp he with he | he
    · exact p.edges e he
    · exact p'.edges e he
  · rw [p'.openings, p.openings, Delivery.openings, Delivery.openings, Delivery.openings,
      List.countP_append, Nat.add_assoc]
  · intro before hd
    rw [← List.append_assoc]
    exact p'.dated _ (p.dated before hd)

theorem refresh (name : String) (c : Circuit) (period : Duration) (now : Instant) :
    Passage c (changesAt name now (c.refresh period now).shifts)
      (c.refresh period now).circuit := by
  rcases c.refresh_cases period now with ⟨start, hst, hat, hdue, heq⟩ | ⟨heq, -⟩
  · rw [heq]
    refine ⟨⟨hst.symm, rfl⟩, ?_, rfl, ?_⟩
    · intro e he
      cases List.mem_singleton.mp he
      show (⟨.opened, .halfOpen, none⟩ : Shift).IsEdge
      decide
    · intro before hd _
      have hopen : c.state ≠ .closed := by simp [hst]
      obtain ⟨start', hat', hlast⟩ := hd hopen
      refine ⟨start', hat', ?_⟩
      rw [lastOpening_append_none]
      · exact hlast
      · intro e he
        cases List.mem_singleton.mp he
        rfl
  · rw [heq]
    exact of_same rfl rfl fun _ => rfl

/-- A single change to open or to closed. -/
theorem single (name : String) (cause : Option Incident) {next : CircuitState}
    (hedge : (⟨c.state, next, cause⟩ : Shift).IsEdge) (hnext : c'.state = next)
    (htimes : c'.timesOpened = c.timesOpened + if next = .opened then 1 else 0)
    (hat : next ≠ .closed → next = .opened ∧ c'.openedAt = some now) :
    Passage c (changesAt name now [⟨c.state, next, cause⟩]) c' := by
  refine ⟨⟨rfl, hnext.symm⟩, ?_, ?_, ?_⟩
  · intro e he
    cases List.mem_singleton.mp he
    exact hedge
  · rw [htimes]
    simp [Delivery.openings, changesAt, Shift.opens]
  · intro before _ hne
    rw [hnext] at hne
    obtain ⟨hopen, hnow⟩ := hat hne
    exact ⟨now, hnow, lastOpening_concat (by simp [Shift.opens, hopen])⟩

theorem move (name : String) (hm : Circuit.Move s now c q c' shifts) :
    Passage c (changesAt name now shifts) c' := by
  cases hm with
  | observed => exact of_same rfl rfl fun _ => rfl
  | admitted _ => exact of_same rfl rfl fun _ => rfl
  | refused _ => exact of_same rfl rfl fun _ => rfl
  | forgiven _ => exact of_same rfl rfl fun _ => rfl
  | probed _ _ => exact of_same rfl rfl fun _ => rfl
  | recovered hst _ =>
    rw [← hst]
    exact single name none (by simp [Shift.IsEdge, Shift.edges, hst]) rfl rfl nofun
  | failed cause _ _ => exact of_same rfl rfl fun _ => rfl
  | tripped cause hst _ =>
    rw [← hst]
    exact single name cause (by simp [Shift.IsEdge, Shift.edges, hst]) rfl rfl
      fun _ => ⟨rfl, rfl⟩
  | relapsed cause hst =>
    rw [← hst]
    exact single name cause (by simp [Shift.IsEdge, Shift.edges, hst]) rfl rfl
      fun _ => ⟨rfl, rfl⟩
  | unheard cause _ => exact of_same rfl rfl fun _ => rfl
  | cleared hst => exact of_same rfl rfl fun hne => absurd hst hne
  | forced hst =>
    refine single name none ?_ rfl rfl nofun
    cases hc : c.state with
    | closed => exact absurd hc hst
    | opened => decide
    | halfOpen => decide

end Passage

/-! ### What a breaker tells -/

namespace CircuitBreaker

variable {listener : Type} {b b' : CircuitBreaker listener} {now : Instant}
  {q : BreakerRequest} {shifts : List Shift}

/-- The changes that an act makes. Only a request makes any. -/
def changes (b : CircuitBreaker listener) (e : Instant × BreakerAct listener) : History :=
  match e.2 with
  | .ask q => changesAt b.name e.1 (b.shifts e.1 q)
  | _ => []

/-- The notices that an act sends, with the reading at which it sends them. -/
def told (b : CircuitBreaker listener) (e : Instant × BreakerAct listener) :
    List (Instant × Notice listener) :=
  match e.2 with
  | .ask q => (b.serve e.1 q).notices.map (e.1, ·)
  | _ => []

/-- All notices that a run sends. -/
def record (b : CircuitBreaker listener) :
    BreakerRun listener → List (Instant × Notice listener)
  | [] => []
  | e :: rest => b.told e ++ record (b.perform e.1 e.2) rest

/-- All changes that a run makes. -/
def history (b : CircuitBreaker listener) : BreakerRun listener → History
  | [] => []
  | e :: rest => b.changes e ++ history (b.perform e.1 e.2) rest

theorem Served.passage (hs : Served b now q b' shifts) :
    Passage b.circuit (changesAt b.name now shifts) b'.circuit := by
  cases hs with
  | uncounted incident hno => exact Passage.of_same rfl rfl fun _ => rfl
  | moved q c shifts hcount hmove =>
    have hfirst := Passage.refresh b.name b.circuit b.settings.openDuration now
    have hsecond := Passage.move b.name hmove
    simpa only [changesAt, List.map_append] using hfirst.trans hsecond

theorem passage_perform (b : CircuitBreaker listener) (e : Instant × BreakerAct listener) :
    Passage b.circuit (b.changes e) (b.perform e.1 e.2).circuit := by
  obtain ⟨now, act⟩ := e
  cases act with
  | ask q => exact (b.served now q).passage
  | subscribe l => exact Passage.of_same rfl rfl fun _ => rfl
  | unsubscribe id => exact Passage.of_same rfl rfl fun _ => rfl

theorem passage_of_run (b : CircuitBreaker listener) (run : BreakerRun listener) :
    Passage b.circuit (b.history run) (b.after run).circuit := by
  induction run generalizing b with
  | nil => exact Passage.of_same rfl rfl fun _ => rfl
  | cons e rest ih => exact (b.passage_perform e).trans (ih (b.perform e.1 e.2))

/-! ### Which request makes which change -/

theorem refresh_shifts {c : Circuit} {period : Duration} {sh : Shift}
    (h : sh ∈ (c.refresh period now).shifts) : sh = ⟨.opened, .halfOpen, none⟩ := by
  rcases c.refresh_cases period now with ⟨start, hst, hat, hdue, heq⟩ | ⟨heq, -⟩
  · rw [heq] at h
    exact List.mem_singleton.mp h
  · rw [heq] at h
    cases h

/-- A move that shifts either notes a failure, which opens the circuit and is the cause, or closes
it without a cause: on a reset, or as the probes of a half-open circuit succeed. -/
theorem shift_of_move {s : BreakerSettings} {c c' : Circuit}
    (hm : Circuit.Move s now c q c' shifts) {sh : Shift} (h : sh ∈ shifts) :
    sh.previous = c.state ∧
      ((sh.current = .opened ∧ q = .recordFailure sh.cause) ∨
        (sh.current = .closed ∧ sh.cause = none ∧ (q = .reset ∨ c.state = .halfOpen))) := by
  cases hm with
  | recovered hst _ =>
    cases List.mem_singleton.mp h
    exact ⟨hst.symm, Or.inr ⟨rfl, rfl, Or.inr hst⟩⟩
  | tripped cause hst _ =>
    cases List.mem_singleton.mp h
    exact ⟨hst.symm, Or.inl ⟨rfl, rfl⟩⟩
  | relapsed cause hst =>
    cases List.mem_singleton.mp h
    exact ⟨hst.symm, Or.inl ⟨rfl, rfl⟩⟩
  | forced _ =>
    cases List.mem_singleton.mp h
    exact ⟨rfl, Or.inr ⟨rfl, rfl, Or.inl rfl⟩⟩
  | _ => cases h

/-- A circuit is opened by a failure that is noted, and that is the cause; nothing else has one. -/
theorem Served.cause (hs : Served b now q b' shifts) {sh : Shift} (h : sh ∈ shifts) :
    (sh.cause.isSome = true → sh.current = .opened) ∧
      (sh.current = .opened → q = .recordFailure sh.cause) := by
  cases hs with
  | uncounted incident hno => cases h
  | moved q c shifts hcount hmove =>
    rcases List.mem_append.mp h with h | h
    · cases refresh_shifts h
      exact ⟨nofun, nofun⟩
    · rcases shift_of_move hmove h with ⟨-, ⟨hopen, hq⟩ | ⟨hclosed, hnone, -⟩⟩
      · exact ⟨fun _ => hopen, fun _ => hq⟩
      · rw [hnone, hclosed]
        exact ⟨nofun, nofun⟩

/-- What a reset of an open circuit reports depends on whether its open period is over. -/
theorem Served.reset_shifts (hs : Served b now .reset b' shifts) {start : Instant}
    (hst : b.circuit.state = .opened) (hat : b.circuit.openedAt = some start)
    (hp : 0 < b.settings.openDuration) :
    shifts = if now < start + b.settings.openDuration then [⟨.opened, .closed, none⟩]
      else [⟨.opened, .halfOpen, none⟩, ⟨.halfOpen, .closed, none⟩] := by
  cases hs with
  | moved q c shifts hcount hmove =>
    rcases b.circuit.refresh_cases b.settings.openDuration now with
      ⟨start', -, hat', hdue, heq⟩ | ⟨heq, hearly⟩
    · have hsame : start = start' := Option.some.inj (hat.symm.trans hat')
      have hover : ¬ now < start + b.settings.openDuration := by
        rw [hsame]
        lia
      rw [heq] at hmove ⊢
      rw [if_neg hover]
      cases hmove with
      | cleared h => cases h
      | forced h => rfl
    · have hlt : now < start + b.settings.openDuration := by
        have hshort : now - start < b.settings.openDuration := hearly start hst hat
        lia
      rw [heq] at hmove ⊢
      rw [if_pos hlt]
      cases hmove with
      | cleared h => exact absurd (hst.symm.trans h) nofun
      | forced h =>
        rw [hst]
        rfl

/-- Only a reset takes a circuit from open to closed, and the circuit was stored as open. -/
theorem Served.closed_from_opened (hs : Served b now q b' shifts) {sh : Shift} (h : sh ∈ shifts)
    (hprevious : sh.previous = .opened) (hcurrent : sh.current = .closed) :
    q = .reset ∧ b.circuit.state = .opened := by
  cases hs with
  | uncounted incident hno => cases h
  | moved q c shifts hcount hmove =>
    rcases List.mem_append.mp h with h | h
    · cases refresh_shifts h
      cases hcurrent
    · rcases shift_of_move hmove h with ⟨hstate, ⟨hopen, -⟩ | ⟨-, -, hreset | hhalf⟩⟩
      · cases hcurrent.symm.trans hopen
      · refine ⟨hreset, ?_⟩
        rcases b.circuit.refresh_cases b.settings.openDuration now with
          ⟨start, hst, hat, hdue, heq⟩ | ⟨heq, -⟩
        · exact hst
        · rw [heq] at hstate
          exact hstate.symm.trans hprevious
      · cases (hprevious.symm.trans hstate).trans hhalf

/-! ### The changes of an act -/

variable {e : Instant × BreakerAct listener} {c : Instant × StateChange} {h : History}

theorem mem_changes (hc : c ∈ b.changes e) :
    c.2.circuit = b.name ∧ ∃ q, e.2 = .ask q ∧ c.2.shift ∈ b.shifts e.1 q := by
  obtain ⟨now, act⟩ := e
  cases act with
  | ask q =>
    obtain ⟨sh, hsh, rfl⟩ := List.mem_map.mp hc
    exact ⟨rfl, q, rfl, hsh⟩
  | subscribe l => cases hc
  | unsubscribe id => cases hc

theorem cause_of_change (hc : c ∈ b.changes e) :
    (c.2.shift.cause.isSome = true → c.2.shift.current = .opened) ∧
      (c.2.shift.current = .opened → e.2 = .ask (.recordFailure c.2.shift.cause)) := by
  obtain ⟨-, q, hq, hsh⟩ := mem_changes hc
  obtain ⟨honly, hwhy⟩ := (b.served e.1 q).cause hsh
  refine ⟨honly, ?_⟩
  intro hopens
  rw [hq, ← hwhy hopens]

theorem early_of_change (hd : b.circuit.Dated h) (hp : 0 < b.settings.openDuration)
    (hc : c ∈ b.changes e) (hprevious : c.2.shift.previous = .opened)
    (hcurrent : c.2.shift.current = .closed) :
    e.2 = .ask .reset ∧ ∃ start, lastOpening h = some start ∧
      e.1 < start + b.settings.openDuration := by
  obtain ⟨-, q, hq, hsh⟩ := mem_changes hc
  have hserved := b.served e.1 q
  obtain ⟨rfl, hst⟩ := hserved.closed_from_opened hsh hprevious hcurrent
  obtain ⟨start, hat, hlast⟩ := hd (by simp [hst])
  refine ⟨hq, start, hlast, ?_⟩
  apply Nat.lt_of_not_le
  intro hover
  rw [hserved.reset_shifts hst hat hp, if_neg (Nat.not_lt.mpr hover)] at hsh
  rcases List.mem_cons.mp hsh with heq | hsh
  · rw [heq] at hcurrent
    cases hcurrent
  · rw [List.mem_singleton.mp hsh] at hprevious
    cases hprevious

theorem changes_of_late_reset (hd : b.circuit.Dated h) (hp : 0 < b.settings.openDuration)
    (hst : b.circuit.state = .opened) (now : Instant) :
    ∃ start, lastOpening h = some start ∧ (start + b.settings.openDuration ≤ now →
      (b.changes (now, .ask .reset)).map (·.2.shift) =
        [⟨.opened, .halfOpen, none⟩, ⟨.halfOpen, .closed, none⟩]) := by
  obtain ⟨start, hat, hlast⟩ := hd (by simp [hst])
  refine ⟨start, hlast, ?_⟩
  intro hover
  show (changesAt b.name now (b.shifts now .reset)).map (·.2.shift) = _
  rw [(b.served now .reset).reset_shifts hst hat hp, if_neg (Nat.not_lt.mpr hover)]
  rfl

theorem history_named (b : CircuitBreaker listener) (run : BreakerRun listener) :
    ∀ c ∈ b.history run, c.2.circuit = b.name := by
  induction run generalizing b with
  | nil => exact nofun
  | cons e rest ih =>
    intro c hc
    rcases List.mem_append.mp hc with hc | hc
    · exact (mem_changes hc).1
    · rw [ih (b.perform e.1 e.2) c hc, (b.perform_fixed e.1 e.2).1]

theorem observe_timesOpened (b : CircuitBreaker listener) (now : Instant) :
    ∃ stats, (b.serve now .observe).answer = .stats stats ∧
      stats.timesOpened = b.circuit.timesOpened := by
  refine ⟨_, rfl, ?_⟩
  show (b.circuit.refresh b.settings.openDuration now).circuit.timesOpened = _
  rcases b.circuit.refresh_cases b.settings.openDuration now with
    ⟨start, hst, hat, hdue, heq⟩ | ⟨heq, -⟩
  · rw [heq]
  · rw [heq]

/-! ### Subscriptions -/

end CircuitBreaker

namespace BreakerAct

variable {listener : Type}

def ends (id : Nat) : BreakerAct listener → Bool
  | .unsubscribe other => id == other
  | _ => false

def isRequest : BreakerAct listener → Bool
  | .ask _ => true
  | _ => false

end BreakerAct

section Subscriptions

variable {listener : Type}

def endedIn (run : BreakerRun listener) (id : Nat) : Bool := run.any fun e => e.2.ends id

/-- The subscriptions made in a run that no later act of the run has ended, oldest first. They are
numbered from `next` on, in the order in which they are made. -/
def standing : Nat → BreakerRun listener → List (Nat × listener)
  | _, [] => []
  | next, (_, .subscribe l) :: rest =>
    if endedIn rest next then standing (next + 1) rest
    else (next, l) :: standing (next + 1) rest
  | next, _ :: rest => standing next rest

theorem standing_ge {next : Nat} {run : BreakerRun listener} {sub : Nat × listener}
    (h : sub ∈ standing next run) : next ≤ sub.1 := by
  induction run generalizing next with
  | nil => cases h
  | cons e rest ih =>
    obtain ⟨now, act⟩ := e
    cases act with
    | subscribe l =>
      rw [standing] at h
      split at h
      · exact Nat.le_of_succ_le (ih h)
      · rcases List.mem_cons.mp h with rfl | h
        · exact Nat.le_refl next
        · exact Nat.le_of_succ_le (ih h)
    | ask q => exact ih h
    | unsubscribe id => exact ih h

/-- No subscription stands twice, and an older one comes before a younger one. -/
theorem standing_increasing (next : Nat) (run : BreakerRun listener) :
    (standing next run).Pairwise fun a b => a.1 < b.1 := by
  induction run generalizing next with
  | nil => exact List.Pairwise.nil
  | cons e rest ih =>
    obtain ⟨now, act⟩ := e
    cases act with
    | subscribe l =>
      rw [standing]
      split
      · exact ih (next + 1)
      · refine List.pairwise_cons.mpr ⟨?_, ih (next + 1)⟩
        intro sub hsub
        exact standing_ge hsub
    | ask q => exact ih next
    | unsubscribe id => exact ih next

end Subscriptions

namespace CircuitBreaker

variable {listener : Type}

/-- The listeners after a run are those before it whose subscription it does not end, and then those
whose subscription it makes and does not end. -/
theorem listeners_after (b : CircuitBreaker listener) (run : BreakerRun listener) :
    (b.after run).listeners =
      b.listeners.filter (fun sub => !endedIn run sub.1) ++ standing b.nextSubscription run := by
  induction run generalizing b with
  | nil =>
    have hall : b.listeners.filter (fun sub => !endedIn ([] : BreakerRun listener) sub.1) =
        b.listeners := List.filter_eq_self.mpr fun _ _ => rfl
    simp only [after_nil, hall, standing, List.append_nil]
  | cons e rest ih =>
    obtain ⟨now, act⟩ := e
    rw [after_cons, ih]
    cases act with
    | ask q =>
      obtain ⟨c, heq⟩ := b.serve_circuit_only now q
      rw [perform, heq]
      rfl
    | subscribe l =>
      show (b.listeners ++ [(b.nextSubscription, l)]).filter (fun sub => !endedIn rest sub.1) ++
        standing (b.nextSubscription + 1) rest =
          b.listeners.filter (fun sub => !endedIn rest sub.1) ++ _
      rw [List.filter_append, List.append_assoc, standing]
      cases hend : endedIn rest b.nextSubscription with
      | true => simp [hend]
      | false => simp [hend]
    | unsubscribe id =>
      show (b.listeners.filter (·.1 != id)).filter (fun sub => !endedIn rest sub.1) ++ _ = _
      rw [List.filter_filter]
      have hends : ∀ sub : Nat × listener,
          (!endedIn rest sub.1 && sub.1 != id) =
            !endedIn ((now, .unsubscribe id) :: rest) sub.1 := by
        intro sub
        show _ = !(sub.1 == id || endedIn rest sub.1)
        rw [Bool.not_or, Bool.and_comm]
        rfl
      simp only [hends]
      rfl

theorem listeners_of_create {name : String} {s : BreakerSettings} {counts : Incident → Bool}
    {b : CircuitBreaker listener} (h : create name s counts = .ok b) (run : BreakerRun listener) :
    (b.after run).listeners = standing 1 run := by
  obtain ⟨-, hb⟩ := create_eq h
  have hnone : b.listeners = [] := by rw [hb]
  have hfirst : b.nextSubscription = 1 := by rw [hb]
  rw [listeners_after, hnone, hfirst, List.filter_nil, List.nil_append]

/-- Every change of an act is told to all listeners, one after the other. -/
theorem told_eq (b : CircuitBreaker listener) (e : Instant × BreakerAct listener) :
    b.told e = (b.changes e).flatMap fun c => b.listeners.map fun sub => (c.1, ⟨sub.2, c.2⟩) := by
  obtain ⟨now, act⟩ := e
  cases act with
  | ask q =>
    show (b.serve now q).notices.map (now, ·) = (changesAt b.name now (b.shifts now q)).flatMap _
    rw [notices_serve, notices, List.map_flatMap, changesAt, List.flatMap_map]
    simp only [List.map_map]
    rfl
  | subscribe l => rfl
  | unsubscribe id => rfl

/-! ### What one listener hears -/

variable [DecidableEq listener]

def heard (l : listener) (record : List (Instant × Notice listener)) : History :=
  record.filterMap fun n => if n.2.listener = l then some (n.1, n.2.change) else none

/-- A listener that has one standing subscription whenever the breaker is asked something. -/
def ListensThroughout (l : listener) (run : BreakerRun listener) : Prop :=
  ∀ before e after, run = before ++ e :: after → e.2.isRequest = true →
    (standing 1 before).countP (·.2 = l) = 1

theorem listensThroughout_iff {l : listener} {run : BreakerRun listener} :
    ListensThroughout l run ↔ ∀ i : Fin run.length, run[i].2.isRequest = true →
      (standing 1 (run.take i)).countP (·.2 = l) = 1 := by
  constructor
  · intro h i
    apply h (run.take i) run[i] (run.drop (i + 1))
    rw [Fin.getElem_fin, ← List.drop_eq_getElem_cons, List.take_append_drop]
  · intro h before e after heq
    subst heq
    have hi := h ⟨before.length, by simp⟩
    simpa using hi

instance (l : listener) (run : BreakerRun listener) : Decidable (ListensThroughout l run) :=
  decidable_of_iff _ listensThroughout_iff.symm

theorem heard_append (l : listener) (first second : List (Instant × Notice listener)) :
    heard l (first ++ second) = heard l first ++ heard l second := List.filterMap_append

/-- A listener hears of a change as often as it is subscribed. -/
theorem heard_change (l : listener) (c : Instant × StateChange) (subs : List (Nat × listener)) :
    heard l (subs.map fun sub => (c.1, ⟨sub.2, c.2⟩)) =
      List.replicate (subs.countP (·.2 = l)) c := by
  induction subs with
  | nil => rfl
  | cons sub subs ih =>
    have hcons : heard l ((sub :: subs).map fun sub => (c.1, ⟨sub.2, c.2⟩)) =
        heard l [(c.1, ⟨sub.2, c.2⟩)] ++ heard l (subs.map fun sub => (c.1, ⟨sub.2, c.2⟩)) :=
      heard_append l [_] _
    rw [hcons, ih, List.countP_cons]
    by_cases hl : sub.2 = l
    · simp [heard, hl, List.replicate_succ]
    · simp [heard, hl]

theorem heard_told {b : CircuitBreaker listener} {l : listener}
    {e : Instant × BreakerAct listener}
    (hone : e.2.isRequest = true → b.listeners.countP (·.2 = l) = 1) :
    heard l (b.told e) = b.changes e := by
  obtain ⟨now, act⟩ := e
  cases act with
  | ask q =>
    rw [told_eq]
    induction b.changes (now, .ask q) with
    | nil => rfl
    | cons c h ih =>
      rw [List.flatMap_cons, heard_append, heard_change, hone rfl, ih]
      rfl
  | subscribe l => rfl
  | unsubscribe id => rfl

theorem heard_record {b : CircuitBreaker listener} {l : listener} {run : BreakerRun listener}
    (hone : ∀ before e after, run = before ++ e :: after → e.2.isRequest = true →
      (b.after before).listeners.countP (·.2 = l) = 1) :
    heard l (b.record run) = b.history run := by
  induction run generalizing b with
  | nil => rfl
  | cons e rest ih =>
    have hrest : heard l ((b.perform e.1 e.2).record rest) = (b.perform e.1 e.2).history rest := by
      apply ih
      intro before e' after heq
      exact hone (e :: before) e' after (by rw [heq, List.cons_append])
    have hfirst : heard l (b.told e) = b.changes e := heard_told (hone [] e rest rfl)
    rw [record, history, heard_append, hfirst, hrest]

/-- What it means that a listener has heard the history of the circuit in a run. -/
structure Faithful (b : CircuitBreaker listener) (run : BreakerRun listener) (l : listener) :
    Prop where
  named : ∀ c ∈ heard l (b.record run), c.2.circuit = b.name
  linked : Linked .closed (heard l (b.record run)) (b.after run).circuit.state
  edges : ∀ c ∈ heard l (b.record run), c.2.shift.IsEdge
  openings : ∀ now, ∃ stats, ((b.after run).serve now .observe).answer = .stats stats ∧
    stats.timesOpened = openings (heard l (b.record run))
  cause : ∀ before e after, run = before ++ e :: after →
    ∀ c ∈ heard l ((b.after before).told e),
      (c.2.shift.cause.isSome = true → c.2.shift.current = .opened) ∧
        (c.2.shift.current = .opened → e.2 = .ask (.recordFailure c.2.shift.cause))
  early : ∀ before e after, run = before ++ e :: after →
    ∀ c ∈ heard l ((b.after before).told e),
      c.2.shift.previous = .opened → c.2.shift.current = .closed →
        e.2 = .ask .reset ∧ ∃ start, lastOpening (heard l (b.record before)) = some start ∧
          e.1 < start + b.settings.openDuration
  late : ∀ before now after, run = before ++ (now, .ask .reset) :: after →
    (b.after before).circuit.state = .opened →
      ∃ start, lastOpening (heard l (b.record before)) = some start ∧
        (start + b.settings.openDuration ≤ now →
          (heard l ((b.after before).told (now, .ask .reset))).map (·.2.shift) =
            [⟨.opened, .halfOpen, none⟩, ⟨.halfOpen, .closed, none⟩])

theorem heard_of_throughout {name : String} {s : BreakerSettings} {counts : Incident → Bool}
    {b : CircuitBreaker listener} (h : create name s counts = .ok b) {l : listener}
    {run : BreakerRun listener} (hl : ListensThroughout l run) :
    heard l (b.record run) = b.history run ∧
      ∀ before e after, run = before ++ e :: after →
        heard l (b.record before) = b.history before ∧
          heard l ((b.after before).told e) = (b.after before).changes e := by
  have hone : ∀ before e after, run = before ++ e :: after → e.2.isRequest = true →
      (b.after before).listeners.countP (·.2 = l) = 1 := by
    intro before e after heq hask
    rw [listeners_of_create h]
    exact hl before e after heq hask
  refine ⟨heard_record hone, ?_⟩
  intro before e after heq
  refine ⟨heard_record ?_, heard_told (hone before e after heq)⟩
  intro first e' later hsplit
  apply hone first e' (later ++ e :: after)
  rw [heq, hsplit, List.append_assoc, List.cons_append]

/-- In every run of a breaker each change of state is told to the subscriptions that stand at that
moment, each once, oldest first; and who listens throughout hears the history of the circuit. -/
theorem after_told {name : String} {s : BreakerSettings} {counts : Incident → Bool}
    {b : CircuitBreaker listener} (h : create name s counts = .ok b) (run : BreakerRun listener) :
    (∀ before e after, run = before ++ e :: after →
      Linked (b.after before).circuit.state ((b.after before).changes e)
        (b.after (before ++ [e])).circuit.state ∧
      (b.after before).told e = ((b.after before).changes e).flatMap (fun c =>
        (standing 1 before).map fun sub => (c.1, ⟨sub.2, c.2⟩)) ∧
      (standing 1 before).Pairwise (fun a b => a.1 < b.1)) ∧
    ∀ l, ListensThroughout l run → Faithful b run l := by
  obtain ⟨hv, hb⟩ := create_eq h
  constructor
  · intro before e after _
    refine ⟨?_, ?_, standing_increasing 1 before⟩
    · rw [after_append]
      exact ((b.after before).passage_perform e).linked
    · rw [told_eq, listeners_of_create h]
  · intro l hl
    obtain ⟨hrecord, hacts⟩ := heard_of_throughout h hl
    have hclosed : b.circuit.state = .closed := by rw [hb]
    have hnever : b.circuit.timesOpened = 0 := by rw [hb]
    have hsettings : ∀ before, (b.after before).settings = b.settings := fun before =>
      (b.after_fixed before).2.1
    have hperiod : ∀ before, 0 < (b.after before).settings.openDuration := by
      intro before
      obtain ⟨-, -, hopen⟩ := (BreakerSettings.validate_eq_ok_iff s).mp hv
      rw [hsettings, hb]
      exact Nat.mul_pos hopen (by decide)
    have hpassage := b.passage_of_run run
    have hdated : ∀ before, (b.after before).circuit.Dated (b.history before) := fun before =>
      (b.passage_of_run before).dated [] fun hopen => absurd hclosed hopen
    refine ⟨?_, ?_, ?_, ?_, ?_, ?_, ?_⟩
    · rw [hrecord]
      exact b.history_named run
    · rw [hrecord, ← hclosed]
      exact hpassage.linked
    · rw [hrecord]
      exact hpassage.edges
    · intro now
      obtain ⟨stats, hanswer, htimes⟩ := (b.after run).observe_timesOpened now
      refine ⟨stats, hanswer, ?_⟩
      rw [htimes, hpassage.openings, hnever, Nat.zero_add, hrecord]
    · intro before e after heq c hc
      rw [(hacts before e after heq).2] at hc
      exact cause_of_change hc
    · intro before e after heq c hc hprevious hcurrent
      rw [(hacts before e after heq).2] at hc
      rw [(hacts before e after heq).1, ← hsettings before]
      exact early_of_change (hdated before) (hperiod before) hc hprevious hcurrent
    · intro before now after heq hstate
      rw [(hacts before _ after heq).1, (hacts before _ after heq).2, ← hsettings before]
      exact changes_of_late_reset (hdated before) (hperiod before) hstate now

/-- A circuit that opens twice: the first time it is reset within its period, the second time after
it. One listener hears everything, one is gone before the first reset, one comes after it. -/
def resets : BreakerRun Nat :=
  [(0, .subscribe 7), (0, .subscribe 8),
   (1, .ask (.recordFailure (some ⟨.timeout, "slow", false⟩))),
   (2, .unsubscribe 2), (500001, .ask .reset), (500002, .subscribe 9),
   (600000, .ask (.recordFailure none)), (600000, .unsubscribe 5), (1600000, .ask .reset)]

theorem after_told_resets :
    let s : BreakerSettings := { failureThreshold := 1, openDurationMs := 1 }
    let b : CircuitBreaker Nat := { name := "orders", settings := s }
    let slow : Incident := ⟨.timeout, "slow", false⟩
    create "orders" s (fun _ => true) = .ok b ∧ ListensThroughout 7 resets ∧
      Faithful b resets 7 ∧
      heard 7 (b.record resets) =
        [(1, ⟨"orders", ⟨.closed, .opened, some slow⟩⟩),
         (500001, ⟨"orders", ⟨.opened, .closed, none⟩⟩),
         (600000, ⟨"orders", ⟨.closed, .opened, none⟩⟩),
         (1600000, ⟨"orders", ⟨.opened, .halfOpen, none⟩⟩),
         (1600000, ⟨"orders", ⟨.halfOpen, .closed, none⟩⟩)] ∧
      (b.after (resets.take 6)).told (600000, .ask (.recordFailure none)) =
        [(600000, ⟨7, ⟨"orders", ⟨.closed, .opened, none⟩⟩⟩),
         (600000, ⟨9, ⟨"orders", ⟨.closed, .opened, none⟩⟩⟩)] := by
  intro s b slow
  have hb : create "orders" s (fun _ => true) = .ok b := rfl
  have hl : ListensThroughout 7 resets := by decide
  obtain ⟨htold, hfaithful⟩ := after_told hb resets
  obtain ⟨-, hnotices, -⟩ := htold (resets.take 6) (600000, .ask (.recordFailure none))
    (resets.drop 7) rfl
  refine ⟨hb, hl, hfaithful 7 hl, by decide, ?_⟩
  rw [hnotices]
  decide

end CircuitBreaker

end Delivery
