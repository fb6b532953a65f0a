import Delivery.Failure.TransportError
import Delivery.Proofs.Breaker.Sound
import Delivery.Proofs.Breaker.Traffic

/-!
# Who closes a circuit

When a circuit opens, calls may be inside that were admitted before. Until the open period is over
nobody is admitted, and whoever is admitted then is a probe. The breaker does not remember when a
call was admitted: it counts the success of a call from before the opening like that of a probe.

So the successes that a circuit has counted when it closes are those of different calls, all of
them since the end of the open period, and each call is a probe or was admitted before the opening.
If none of the latter has succeeded, only probes close the circuit. A success that comes while the
circuit is open is always one of a call from before.
-/

namespace Delivery

/-- The latest opening of a history, with what came before it and after it. -/
structure LatestOpening (h earlier : List Dealing) (opening : Dealing) (later : List Dealing) :
    Prop where
  split : h = earlier ++ opening :: later
  opens : opening.opens = true
  quiet : ∀ d ∈ later, d.opens = false

theorem LatestOpening.concat {h earlier later : List Dealing} {opening d : Dealing}
    (hl : LatestOpening h earlier opening later) (hd : d.opens = false) :
    LatestOpening (h ++ [d]) earlier opening (later ++ [d]) where
  split := by rw [hl.split, List.append_assoc, List.cons_append]
  opens := hl.opens
  quiet := List.forall_mem_append.mpr ⟨hl.quiet, List.forall_mem_singleton.mpr hd⟩

theorem LatestOpening.unique {h earlier earlier' later later' : List Dealing}
    {opening opening' : Dealing} (hl : LatestOpening h earlier opening later)
    (hl' : LatestOpening h earlier' opening' later') :
    earlier = earlier' ∧ opening = opening' ∧ later = later' := by
  have hsplit := hl.split.symm.trans hl'.split
  rcases List.append_eq_append_iff.mp hsplit with ⟨between, rfl, heq⟩ | ⟨between, rfl, heq⟩
  · cases between with
    | nil =>
      cases heq
      exact ⟨(List.append_nil _).symm, rfl, rfl⟩
    | cons d between =>
      cases heq
      have hquiet := hl.quiet opening' (List.mem_append_right between List.mem_cons_self)
      cases hquiet.symm.trans hl'.opens
  · cases between with
    | nil =>
      cases heq
      exact ⟨List.append_nil _, rfl, rfl⟩
    | cons d between =>
      cases heq
      have hquiet := hl'.quiet opening (List.mem_append_right between List.mem_cons_self)
      cases hquiet.symm.trans hl.opens

/-- The calls that have told of a success at a reading or later. -/
def recoveries (due : Instant) (h : List Dealing) : List Nat :=
  successes (h.filter fun d => due ≤ d.time)

theorem recoveries_concat (due : Instant) (h : List Dealing) (d : Dealing) :
    recoveries due (h ++ [d]) = recoveries due h ++ recoveries due [d] := by
  simp only [recoveries, successes, List.filter_append, List.filterMap_append]

theorem recoveries_single {due : Instant} {d : Dealing}
    (hcaller : d.succeeds = true → ∃ n, d.caller = some n) :
    (recoveries due [d]).length = if d.succeeds = true ∧ due ≤ d.time then 1 else 0 := by
  by_cases hdue : due ≤ d.time
  · cases hs : d.succeeds with
    | false => simp [recoveries, successes, hdue, hs]
    | true =>
      obtain ⟨n, hn⟩ := hcaller hs
      simp [recoveries, successes, hdue, hs, hn]
  · simp [recoveries, successes, hdue]

theorem recoveries_sublist (due : Instant) {h h' : List Dealing} (hsub : h.Sublist h') :
    (recoveries due h).Sublist (successes h') :=
  ((List.filter_sublist).trans hsub).filterMap _

/-! ### Single requests -/

namespace Circuit

variable {s : BreakerSettings} {c c' : Circuit} {now : Instant} {q : BreakerRequest}
  {shifts : List Shift}

/-- After a look a circuit that is not closed is half-open just if its open period is over. -/
theorem due_iff (hv : s.validate = .ok ()) (hc : c.Sound s now) {start : Instant}
    (hne : (c.refresh s.openDuration now).circuit.state ≠ .closed)
    (hat : (c.refresh s.openDuration now).circuit.openedAt = some start) :
    start + s.openDuration ≤ now ↔ (c.refresh s.openDuration now).circuit.state = .halfOpen := by
  constructor
  · intro hdue
    cases hst : (c.refresh s.openDuration now).circuit.state with
    | closed => exact absurd hst hne
    | halfOpen => rfl
    | opened =>
      rcases c.refresh_cases s.openDuration now with ⟨_, _, _, _, heq⟩ | ⟨heq, hearly⟩
      · rw [heq] at hst
        cases hst
      · rw [heq] at hst hat
        have hlt : now - start < s.openDuration := hearly start hst hat
        lia
  · intro hst
    obtain ⟨⟨start', hat', hdue⟩, -⟩ := (hc.refresh hv).halfOpen hst
    cases hat'.symm.trans hat
    exact hdue

/-- A move leaves the circuit closed, or opens it, or leaves its state and counts probes. -/
theorem Move.outcome (hm : Move s now c q c' shifts) :
    c'.state = .closed ∨
    (∃ cause, q = .recordFailure cause ∧ shifts = [⟨c.state, .opened, cause⟩] ∧
      c'.openedAt = some now ∧ c'.consecutiveSuccesses = 0) ∨
    (shifts = [] ∧ c'.state = c.state ∧ c'.openedAt = c.openedAt ∧
      c'.consecutiveSuccesses =
        c.consecutiveSuccesses + if q = .recordSuccess ∧ c.state = .halfOpen then 1 else 0) := by
  cases hm with
  | observed => exact .inr (.inr ⟨rfl, rfl, rfl, rfl⟩)
  | admitted _ => exact .inr (.inr ⟨rfl, rfl, rfl, rfl⟩)
  | refused _ => exact .inr (.inr ⟨rfl, rfl, rfl, rfl⟩)
  | forgiven hst => exact .inr (.inr ⟨rfl, rfl, rfl, by simp [hst]⟩)
  | probed hst _ => exact .inr (.inr ⟨rfl, rfl, rfl, by simp [hst]⟩)
  | recovered _ _ => exact .inl rfl
  | failed cause _ _ => exact .inr (.inr ⟨rfl, rfl, rfl, rfl⟩)
  | tripped cause hst _ => exact .inr (.inl ⟨cause, rfl, by rw [hst], rfl, rfl⟩)
  | relapsed cause hst => exact .inr (.inl ⟨cause, rfl, by rw [hst], rfl, rfl⟩)
  | unheard cause _ => exact .inr (.inr ⟨rfl, rfl, rfl, rfl⟩)
  | cleared hst => exact .inl hst
  | forced _ => exact .inl rfl

end Circuit

namespace CircuitBreaker

variable {listener : Type} {b b' : CircuitBreaker listener} {now : Instant} {q : BreakerRequest}
  {shifts : List Shift}

/-- Without a reset, a half-open circuit closes with a success that reaches the threshold. -/
theorem Served.closing (hs : Served b now q b' shifts) (hq : q ≠ .reset) {sh : Shift}
    (h : sh ∈ shifts) (hcurrent : sh.current = .closed) :
    let c := (b.circuit.refresh b.settings.openDuration now).circuit
    q = .recordSuccess ∧ c.state = .halfOpen ∧
      b.settings.successThreshold ≤ c.consecutiveSuccesses + 1 := by
  cases hs with
  | uncounted incident hno => cases h
  | moved q c shifts hcount hmove =>
    rcases List.mem_append.mp h with h | h
    · cases refresh_shifts h
      cases hcurrent
    · cases hmove with
      | recovered hst hmany => exact ⟨rfl, hst, hmany⟩
      | tripped cause _ _ =>
        cases List.mem_singleton.mp h
        cases hcurrent
      | relapsed cause _ =>
        cases List.mem_singleton.mp h
        cases hcurrent
      | forced _ => exact absurd rfl hq
      | _ => cases h

end CircuitBreaker

/-! ### The count of successes -/

/-- What is stored of a circuit that is not closed, and what happened since it last opened. -/
structure Since (s : BreakerSettings) (c : Circuit) (opening : Dealing) (later : List Dealing) :
    Prop where
  stored : c.openedAt = some opening.time
  noAdmission : opening.admits = false
  admitted : ∀ a ∈ later, a.admits = true → opening.time + s.openDuration ≤ a.time
  count : (recoveries (opening.time + s.openDuration) later).length = c.consecutiveSuccesses

theorem Since.concat {s : BreakerSettings} {c c' : Circuit} {opening d : Dealing}
    {later : List Dealing} (hs : Since s c opening later) (hat : c'.openedAt = c.openedAt)
    (hd : d.admits = true → opening.time + s.openDuration ≤ d.time)
    (hcount : c'.consecutiveSuccesses =
      c.consecutiveSuccesses + (recoveries (opening.time + s.openDuration) [d]).length) :
    Since s c' opening (later ++ [d]) where
  stored := hat.trans hs.stored
  noAdmission := hs.noAdmission
  admitted := List.forall_mem_append.mpr ⟨hs.admitted, List.forall_mem_singleton.mpr hd⟩
  count := by rw [recoveries_concat, List.length_append, hs.count, hcount]

/-- A call that was admitted came in before the opening, or after the end of its period. -/
theorem Since.of_admitted {s : BreakerSettings} {c : Circuit} {opening : Dealing}
    {h earlier later : List Dealing} (hs : Since s c opening later)
    (hl : LatestOpening h earlier opening later) {n : Nat} (hn : Admitted h 0 n) :
    Admitted earlier 0 n ∨ Admitted later (opening.time + s.openDuration) n := by
  obtain ⟨a, hmem, hcaller, ha, -⟩ := hn
  rw [hl.split] at hmem
  rcases List.mem_append.mp hmem with hmem | hmem
  · exact .inl ⟨a, hmem, hcaller, ha, Nat.zero_le _⟩
  · rcases List.mem_cons.mp hmem with rfl | hmem
    · rw [hs.noAdmission] at ha
      cases ha
    · exact .inr ⟨a, hmem, hcaller, ha, hs.admitted a hmem ha⟩

def Tally (s : BreakerSettings) (c : Circuit) (h : List Dealing) : Prop :=
  c.state ≠ .closed → ∃ earlier opening later,
    LatestOpening h earlier opening later ∧ Since s c opening later

theorem Tally.refresh {s : BreakerSettings} {c : Circuit} {h : List Dealing} {now : Instant}
    (ht : Tally s c h) (hc : c.Sound s now) :
    Tally s (c.refresh s.openDuration now).circuit h := by
  rcases c.refresh_cases s.openDuration now with ⟨_, hst, _, _, heq⟩ | ⟨heq, -⟩
  · intro _
    obtain ⟨earlier, opening, later, hl, hs⟩ := ht (by simp [hst])
    rw [heq]
    -- an open circuit has counted nothing yet
    exact ⟨earlier, opening, later, hl, hs.stored, hs.noAdmission, hs.admitted,
      hs.count.trans (hc.opened hst).2.1⟩
  · rw [heq]
    exact ht

theorem refresh_opens (c : Circuit) (period : Duration) (now : Instant) :
    (c.refresh period now).shifts.any (·.opens) = false := by
  rw [List.any_eq_false]
  intro sh hsh
  rw [CircuitBreaker.refresh_shifts hsh]
  decide

theorem Tally.served {listener : Type} {b b' : CircuitBreaker listener} {h : List Dealing}
    {d : Dealing} {q : BreakerRequest} {shifts : List Shift} (hserved : b.Served d.time q b' shifts)
    (hq : d.request = q) (hshifts : d.shifts = shifts) (hv : b.settings.validate = .ok ())
    (hc : b.circuit.Sound b.settings d.time) (ht : Tally b.settings b.circuit h)
    (hadmits : d.admits = true →
      (b.circuit.refresh b.settings.openDuration d.time).circuit.state ≠ .opened)
    (hcaller : d.succeeds = true → ∃ n, d.caller = some n) :
    Tally b.settings b'.circuit (h ++ [d]) := by
  intro hne
  cases hserved with
  | uncounted incident hno =>
    obtain ⟨earlier, opening, later, hl, hs⟩ := ht hne
    have hquiet : d.opens = false := by rw [Dealing.opens, hshifts, List.any_nil]
    have hfailure : d.succeeds ≠ true := by simp [Dealing.succeeds, hq]
    refine ⟨earlier, opening, _, hl.concat hquiet, hs.concat rfl ?_ ?_⟩
    · intro ha
      cases hq.symm.trans (Dealing.admits_iff.mp ha).1
    · rw [recoveries_single hcaller, if_neg fun h => hfailure h.1]
      rfl
  | moved q c shifts hcount hmove =>
    have ht' := ht.refresh hc
    have hdue := @Circuit.due_iff b.settings b.circuit d.time hv hc
    have hrefresh := refresh_opens b.circuit b.settings.openDuration d.time
    generalize b.circuit.refresh b.settings.openDuration d.time = r at *
    rcases hmove.outcome with hclosed | ⟨cause, rfl, rfl, hat, hzero⟩ | ⟨rfl, hst, hat, hcounted⟩
    · exact absurd hclosed hne
    · -- the circuit opens, and nothing has happened since
      refine ⟨h, d, [], ⟨rfl, ?_, List.forall_mem_nil _⟩, hat, ?_, List.forall_mem_nil _,
        hzero.symm⟩
      · simp [Dealing.opens, hshifts, Shift.opens]
      · simp [Dealing.admits, hq]
    · obtain ⟨earlier, opening, later, hl, hs⟩ := ht' (hst ▸ hne)
      have hquiet : d.opens = false := by rw [Dealing.opens, hshifts, List.append_nil, hrefresh]
      have hover := hdue (hst ▸ hne) hs.stored
      refine ⟨earlier, opening, _, hl.concat hquiet, hs.concat hat ?_ ?_⟩
      · intro ha
        refine hover.mpr ?_
        cases hstate : r.circuit.state with
        | closed => exact absurd hstate (hst ▸ hne)
        | opened => exact absurd hstate (hadmits ha)
        | halfOpen => rfl
      · rw [hcounted, recoveries_single hcaller]
        simp only [Dealing.succeeds_iff, hq, hover]

/-! ### Whole runs -/

theorem split_concat {h before rest : List Dealing} {d e : Dealing}
    (heq : h ++ [d] = before ++ e :: rest) :
    (∃ rest', h = before ++ e :: rest') ∨ (before = h ∧ e = d) := by
  rcases rest.eq_nil_or_concat with rfl | ⟨rest', x, rfl⟩
  · obtain ⟨rfl, hed⟩ := List.append_inj' heq rfl
    exact .inr ⟨rfl, (List.singleton_inj.mp hed).symm⟩
  · rw [List.concat_eq_append, ← List.cons_append, ← List.append_assoc] at heq
    exact .inl ⟨rest', (List.append_inj' heq rfl).1⟩

/-- What is known of a dealing that comes after a history. -/
structure Accounted (s : BreakerSettings) (before : List Dealing) (e : Dealing) : Prop where
  once : (successes (before ++ [e])).Nodup
  admitted : ∀ n ∈ successes (before ++ [e]), Admitted before 0 n
  caller : e.succeeds = true → ∃ n, e.caller = some n
  halfOpen : e.closes = true → e.found = .halfOpen
  latest : e.found ≠ .closed → ∃ earlier opening later,
    LatestOpening before earlier opening later ∧
      (e.closes = true →
        s.successThreshold ≤ (recoveries (opening.time + s.openDuration) (later ++ [e])).length) ∧
      ∀ n, Admitted before 0 n → Admitted earlier 0 n ∨
        (Admitted later (opening.time + s.openDuration) n ∧ e.found = .halfOpen)

namespace Traffic

variable {ε α listener : Type} {t : Traffic listener ε α} {s : BreakerSettings}

structure Kept (s : BreakerSettings) (t : Traffic listener ε α) : Prop where
  orderly : Orderly none t
  settings : t.breaker.settings = s
  sound : t.breaker.circuit.Sound s t.now
  tally : Tally s t.breaker.circuit t.history
  accounted : ∀ before e rest, t.history = before ++ e :: rest → Accounted s before e

theorem closes_dealing {caller : Option Nat} {q : BreakerRequest}
    (hf : (t.dealing caller q).Fair t.history) (hcl : (t.dealing caller q).closes = true) :
    let c := (t.breaker.circuit.refresh t.breaker.settings.openDuration t.now).circuit
    q = .recordSuccess ∧ c.state = .halfOpen ∧
      t.breaker.settings.successThreshold ≤ c.consecutiveSuccesses + 1 := by
  obtain ⟨sh, hsh, hedge⟩ := List.any_eq_true.mp hcl
  have hcurrent : sh.current = .closed := by simpa using (Bool.and_eq_true_iff.mp hedge).2
  exact (t.breaker.served t.now q).closing hf.not_reset hsh hcurrent

theorem Kept.accounted_dealing (hk : t.Kept s) (hv : s.validate = .ok ()) {caller : Option Nat}
    {q : BreakerRequest} (hf : (t.dealing caller q).Fair t.history) :
    Accounted s t.history (t.dealing caller q) := by
  obtain ⟨ho, rfl, hsound, htally, -⟩ := hk
  have hcaller : (t.dealing caller q).succeeds = true → ∃ n, (t.dealing caller q).caller = some n :=
    fun hs => (hf.success hs).imp fun _ hn => hn.1
  refine ⟨hf.once ho.once, hf.admitted ho.admitted, hcaller,
    fun hcl => (closes_dealing hf hcl).2.1, ?_⟩
  intro hfound
  obtain ⟨earlier, opening, later, hl, hs⟩ := htally.refresh hsound hfound
  have hdue := Circuit.due_iff hv hsound hfound hs.stored
  refine ⟨earlier, opening, later, hl, ?_, ?_⟩
  · intro hcl
    obtain ⟨rfl, hhalf, hmany⟩ := closes_dealing hf hcl
    rw [recoveries_concat, List.length_append, hs.count, recoveries_single hcaller,
      if_pos ⟨rfl, hdue.mpr hhalf⟩]
    exact hmany
  · intro n hn
    refine (hs.of_admitted hl hn).imp_right fun hprobe => ⟨hprobe, hdue.mp ?_⟩
    obtain ⟨a, hmem, -, -, hover⟩ := hprobe
    refine Nat.le_trans hover (ho.past a ?_)
    rw [hl.split]
    exact List.mem_append_right earlier (List.mem_cons_of_mem opening hmem)

theorem Kept.initial {name : String} {counts : Incident → Bool} {b : CircuitBreaker listener}
    (hb : CircuitBreaker.create name s counts = .ok b) :
    Kept s ({ breaker := b } : Traffic listener ε α) := by
  obtain ⟨hv, rfl⟩ := CircuitBreaker.create_eq hb
  refine ⟨.initial _, rfl, Circuit.Sound.initial hv 0, fun hne => absurd rfl hne, ?_⟩
  intro before e rest h
  simp at h

theorem Kept.moved {t' : Traffic listener ε α} (hk : t.Kept s) (hv : s.validate = .ok ())
    (ho : Orderly none t') (hm : Moved t t') : t'.Kept s := by
  cases hm with
  | kept hb hh hnow =>
    refine ⟨ho, hb ▸ hk.settings, hb ▸ hk.sound.mono hnow, ?_, ?_⟩
    · rw [hb, hh]
      exact hk.tally
    · rw [hh]
      exact hk.accounted
  | dealt caller q hf hb hh hnow =>
    have hd := hk.accounted_dealing hv hf
    obtain ⟨-, rfl, hsound, htally, haccounted⟩ := hk
    have hserved := t.breaker.served t.now q
    have hsettings : t'.breaker.settings = t.breaker.settings := by
      obtain ⟨c, heq⟩ := t.breaker.serve_circuit_only t.now q
      rw [hb, heq]
    refine ⟨ho, hsettings, ?sound, ?tally, ?accounted⟩
    case sound =>
      rw [hb, hnow]
      exact hserved.sound hv hsound
    case tally =>
      rw [hb, hh]
      exact .served (d := t.dealing caller q) hserved rfl rfl hv hsound htally
        (fun ha => (admits_dealing ha).2) hd.caller
    case accounted =>
      intro before e rest h
      rw [hh] at h
      rcases split_concat h with ⟨rest', h⟩ | ⟨rfl, rfl⟩
      · exact haccounted before e rest' h
      · exact hd

variable [Classified ε] [Describable ε]

theorem Kept.after (hk : t.Kept s) (hv : s.validate = .ok ()) (run : List (Move ε α)) :
    (t.after run).Kept s := by
  induction run generalizing t with
  | nil => exact hk
  | cons m rest ih =>
    obtain ⟨ho, hm⟩ := hk.orderly.move m
    exact ih (hk.moved hv ho hm)

/-- When a dealing closes the circuit or finds it not closed, it has opened before. The successes
since the end of the open period are those of different calls, and as many as the threshold when
the circuit closes. Each call was admitted before the opening or after the end of the period, and
before the opening if its success comes while the circuit is open. -/
theorem recovered_since_opening {name : String} {counts : Incident → Bool}
    {b : CircuitBreaker listener} (hb : CircuitBreaker.create name s counts = .ok b)
    (run : List (Move ε α)) {before rest : List Dealing} {e : Dealing}
    (h : (after { breaker := b } run).history = before ++ e :: rest)
    (he : e.closes = true ∨ e.found ≠ .closed) :
    ∃ earlier opening later, LatestOpening before earlier opening later ∧
      (recoveries (opening.time + s.openDuration) (later ++ [e])).Nodup ∧
      (∀ n ∈ recoveries (opening.time + s.openDuration) (later ++ [e]),
        Admitted earlier 0 n ∨ Admitted later (opening.time + s.openDuration) n) ∧
      (e.closes = true →
        s.successThreshold ≤ (recoveries (opening.time + s.openDuration) (later ++ [e])).length) ∧
      (e.succeeds = true → ∃ n, e.caller = some n ∧ (Admitted earlier 0 n ∨
        (Admitted later (opening.time + s.openDuration) n ∧ e.found = .halfOpen))) := by
  have hk := (Kept.initial hb).after (CircuitBreaker.create_eq hb).1 run
  have ha := hk.accounted before e rest h
  have hfound : e.found ≠ .closed := by
    rcases he with hcl | hfound
    · rw [ha.halfOpen hcl]
      nofun
    · exact hfound
  obtain ⟨earlier, opening, later, hl, hcloses, hadmitted⟩ := ha.latest hfound
  have hsub : (recoveries (opening.time + s.openDuration) (later ++ [e])).Sublist
      (successes (before ++ [e])) := by
    rw [hl.split, List.append_assoc, List.cons_append]
    exact recoveries_sublist _ ((List.sublist_cons_self _ _).trans (List.sublist_append_right _ _))
  refine ⟨earlier, opening, later, hl, ha.once.sublist hsub, ?_, hcloses, ?_⟩
  · intro n hn
    exact (hadmitted n (ha.admitted n (hsub.subset hn))).imp_right And.left
  · intro hs
    obtain ⟨n, hn⟩ := ha.caller hs
    have hmem : n ∈ successes (before ++ [e]) := mem_successes_concat.mpr (.inr ⟨hs, hn⟩)
    exact ⟨n, hn, hadmitted n (ha.admitted n hmem)⟩

/-- If no call from before the opening has succeeded since the end of the open period, the circuit
is closed by as many probes as the threshold. A success that is noted while the circuit is not
closed is that of a probe and finds it half-open, unless its call is one from before. -/
theorem closed_by_probes {name : String} {counts : Incident → Bool}
    {b : CircuitBreaker listener} (hb : CircuitBreaker.create name s counts = .ok b)
    (run : List (Move ε α)) {before rest : List Dealing} {e : Dealing}
    (h : (after { breaker := b } run).history = before ++ e :: rest)
    (he : e.closes = true ∨ e.found ≠ .closed) :
    ∃ earlier opening later, LatestOpening before earlier opening later ∧
      (e.closes = true →
        (∀ n ∈ recoveries (opening.time + s.openDuration) (later ++ [e]),
          ¬ Admitted earlier 0 n) →
        ∃ probes : List Nat, probes.Nodup ∧ s.successThreshold ≤ probes.length ∧
          ∀ n ∈ probes, Admitted later (opening.time + s.openDuration) n ∧
            n ∈ recoveries (opening.time + s.openDuration) (later ++ [e])) ∧
      (e.succeeds = true → (∀ n, e.caller = some n → ¬ Admitted earlier 0 n) →
        e.found = .halfOpen ∧
          ∃ n, e.caller = some n ∧ Admitted later (opening.time + s.openDuration) n) := by
  obtain ⟨earlier, opening, later, hl, honce, hadmitted, hcloses, hsucceeds⟩ :=
    recovered_since_opening hb run h he
  refine ⟨earlier, opening, later, hl, ?_, ?_⟩
  · intro hcl hnone
    exact ⟨_, honce, hcloses hcl, fun n hn => ⟨(hadmitted n hn).resolve_left (hnone n hn), hn⟩⟩
  · intro hs hnot
    obtain ⟨n, hn, hbefore | ⟨hprobe, hhalf⟩⟩ := hsucceeds hs
    · exact absurd hbefore (hnot n hn)
    · exact ⟨hhalf, n, hn, hprobe⟩

/-! ### A call from before the opening -/

/-- One failure opens the circuit, and one success closes it. -/
def hasty : BreakerSettings := { failureThreshold := 1, openDurationMs := 1000 }

def hastyBreaker : CircuitBreaker Unit :=
  { name := "orders", settings := hasty, counts := fun _ => true }

/-- Two calls are inside. One of them fails, and the other goes well after the open period. -/
def overtaken : Traffic Unit TransportError Unit :=
  after { breaker := hastyBreaker }
    [.begin, .begin, .serve 0, .serve 1, .finish 1 (.error ⟨.transient, "down", none⟩),
     .tell 1 false, .serve 1, .tick (Duration.ofSeconds 2), .finish 0 (.ok ())]

def lateSuccess : Dealing := overtaken.dealing (some 0) .recordSuccess

theorem closed_without_probe : ¬ ∀ (s : BreakerSettings) (b : CircuitBreaker Unit)
    (run : List (Move TransportError Unit)) (before rest : List Dealing) (e : Dealing),
    CircuitBreaker.create "orders" s (fun _ => true) = .ok b →
    (after { breaker := b } run).history = before ++ e :: rest → e.closes = true →
    ∃ earlier opening later, LatestOpening before earlier opening later ∧
      ∃ probes : List Nat, probes.Nodup ∧ s.successThreshold ≤ probes.length ∧
        ∀ n ∈ probes, Admitted later (opening.time + s.openDuration) n ∧
          n ∈ recoveries (opening.time + s.openDuration) (later ++ [e]) := by
  intro h
  obtain ⟨earlier, opening, later, hl, probes, -, hmany, hprobes⟩ :=
    h hasty hastyBreaker
      [.begin, .begin, .serve 0, .serve 1, .finish 1 (.error ⟨.transient, "down", none⟩),
       .tell 1 false, .serve 1, .tick (Duration.ofSeconds 2), .finish 0 (.ok ()), .serve 0]
      overtaken.history [] lateSuccess rfl rfl rfl
  obtain ⟨n, hn⟩ := List.exists_mem_of_length_pos hmany
  obtain ⟨a, hmem, -, -, hdue⟩ := (hprobes n hn).1
  -- all that happened before did so at nought, when the open period was not over
  have hstart : ∀ d ∈ overtaken.history, d.time = 0 := by decide
  have hin : a ∈ overtaken.history := by
    rw [hl.split]
    exact List.mem_append_right earlier (List.mem_cons_of_mem opening hmem)
  rw [hstart a hin] at hdue
  exact absurd (Nat.le_trans (Nat.le_add_left _ opening.time) hdue) (by decide)

def careful : BreakerSettings :=
  { failureThreshold := 1, openDurationMs := 1000, successThreshold := 2 }

def carefulBreaker : CircuitBreaker Unit :=
  { name := "orders", settings := careful, counts := fun _ => true }

/-- Of two calls that are inside one fails, and the other never ends. Two more come in later. -/
def probing : List (Move TransportError Unit) :=
  [.begin, .begin, .serve 0, .serve 1, .finish 1 (.error ⟨.transient, "down", none⟩),
   .tell 1 false, .serve 1, .tick Duration.second, .begin, .begin, .serve 2, .serve 3,
   .finish 3 (.ok ()), .serve 3, .finish 2 (.ok ())]

def probed : Traffic Unit TransportError Unit := after { breaker := carefulBreaker } probing

def lastSuccess : Dealing := probed.dealing (some 2) .recordSuccess

theorem closed_by_probes_two :
    CircuitBreaker.create "orders" careful (fun _ => true) = .ok carefulBreaker ∧
    (after { breaker := carefulBreaker } (probing ++ [.serve 2])).history =
      probed.history ++ lastSuccess :: [] ∧ lastSuccess.closes = true ∧
    ∃ earlier opening later, LatestOpening probed.history earlier opening later ∧
      lastSuccess.found = .halfOpen ∧ Admitted later (opening.time + careful.openDuration) 2 ∧
      ∃ probes : List Nat, probes.Nodup ∧ 2 ≤ probes.length ∧
        ∀ n ∈ probes, Admitted later (opening.time + careful.openDuration) n ∧
          n ∈ recoveries (opening.time + careful.openDuration) (later ++ [lastSuccess]) := by
  have hb : CircuitBreaker.create "orders" careful (fun _ => true) = .ok carefulBreaker := rfl
  have h : (after { breaker := carefulBreaker } (probing ++ [.serve 2])).history =
    probed.history ++ lastSuccess :: [] := rfl
  have hcl : lastSuccess.closes = true := rfl
  obtain ⟨earlier, opening, later, hl, hcloses, hsucceeds⟩ := closed_by_probes hb _ h (.inl hcl)
  have hlatest : LatestOpening probed.history (probed.history.take 2)
      (probed.history.get ⟨2, by decide⟩) (probed.history.drop 3) := ⟨rfl, rfl, by decide⟩
  obtain ⟨rfl, rfl, rfl⟩ := hl.unique hlatest
  obtain ⟨hfound, n, hn, hadmitted⟩ := hsucceeds rfl fun n hn => by
    cases hn
    decide
  cases hn
  exact ⟨hb, h, hcl, _, _, _, hl, hfound, hadmitted, hcloses hcl (by decide)⟩

end Traffic

end Delivery
