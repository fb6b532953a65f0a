import Delivery.Proofs.Breaker.History
import Mathlib.Data.List.Induction

/-!
# The open period

A circuit that opens at a reading refuses every call until its period is over and no longer, unless
it is reset: nothing that happens meanwhile moves the reading at which it opened. With each refusal
goes what is left of the period, so a caller that waits as long as it was told is let through,
unless a later failure has opened the circuit anew (`exactWindow_of_opening`). A request is made at
one reading of the clock; whether it is refused and what it is told rest on the same reading.
-/

namespace Delivery

/-! ### Circuits that have been open since a reading -/

namespace Circuit

/-- The circuit opened at a reading and has not been looked at since its period was over. -/
def OpenSince (c : Circuit) (t : Instant) : Prop := c.state = .opened ∧ c.openedAt = some t

variable {c : Circuit} {period : Duration} {t now : Instant}

theorem OpenSince.refresh_early (h : c.OpenSince t) (hle : t ≤ now) (hlt : now < t + period) :
    c.refresh period now = ⟨(), c, []⟩ := by
  rcases c.refresh_cases period now with ⟨start, -, hat, hdue, -⟩ | ⟨heq, -⟩
  · have hsame : start = t := Option.some.inj (hat.symm.trans h.2)
    lia
  · exact heq

theorem OpenSince.refresh_late (h : c.OpenSince t) (hover : t + period ≤ now) :
    (c.refresh period now).circuit = { c with state := .halfOpen, consecutiveSuccesses := 0 } := by
  rcases c.refresh_cases period now with ⟨start, -, -, -, heq⟩ | ⟨-, hearly⟩
  · rw [heq]
  · have hlt : now - t < period := hearly t h.1 h.2
    lia

theorem refresh_of_not_opened (h : c.state ≠ .opened) : c.refresh period now = ⟨(), c, []⟩ := by
  rcases c.refresh_cases period now with ⟨start, hst, -⟩ | ⟨heq, -⟩
  · exact absurd hst h
  · exact heq

theorem OpenSince.remaining (h : c.OpenSince t) (hle : t ≤ now) :
    c.openRemaining period now = t + period - now := by
  rw [openRemaining, h.2, Option.map_some, Option.getD_some, Duration.remaining]
  lia

end Circuit

namespace CircuitBreaker

variable {listener : Type} {b b' : CircuitBreaker listener} {t now : Instant}
  {q : BreakerRequest} {shifts : List Shift}

/-! ### Asking for admission -/

theorem acquire_early (h : b.circuit.OpenSince t) (hle : t ≤ now)
    (hlt : now < t + b.settings.openDuration) :
    (b.serve now .acquire).answer =
        .refused ⟨b.name, t + b.settings.openDuration - now⟩ ∧
      (b.serve now .acquire).breaker.circuit.rejected = b.circuit.rejected + 1 := by
  simp only [serve, settle, Circuit.acquire, Circuit.refreshed, h.refresh_early hle hlt,
    if_pos h.1, h.remaining hle, and_self]

theorem admitted_of_refresh
    (h : (b.circuit.refresh b.settings.openDuration now).circuit.state ≠ .opened) :
    (b.serve now .acquire).answer = .admitted ∧
      (b.serve now .acquire).breaker.circuit.rejected =
        (b.circuit.refresh b.settings.openDuration now).circuit.rejected := by
  simp only [serve, settle, Circuit.acquire, Circuit.refreshed, if_neg h, and_self]

/-- The circuit is open since a reading or not open at all. -/
def OpenAtMostSince (b : CircuitBreaker listener) (t : Instant) : Prop :=
  b.circuit.state ≠ .opened ∨ b.circuit.OpenSince t

theorem acquire_late (h : b.OpenAtMostSince t) (hover : t + b.settings.openDuration ≤ now) :
    (b.serve now .acquire).answer = .admitted ∧
      (b.serve now .acquire).breaker.circuit.rejected = b.circuit.rejected := by
  rcases h with h | h
  · have hlook : b.circuit.refresh b.settings.openDuration now = ⟨(), b.circuit, []⟩ :=
      Circuit.refresh_of_not_opened h
    have hstate : (b.circuit.refresh b.settings.openDuration now).circuit.state ≠ .opened := by
      rw [hlook]
      exact h
    have hadmitted := b.admitted_of_refresh hstate
    rwa [hlook] at hadmitted
  · have hlook := h.refresh_late hover
    have hstate : (b.circuit.refresh b.settings.openDuration now).circuit.state ≠ .opened := by
      rw [hlook]
      exact nofun
    have hadmitted := b.admitted_of_refresh hstate
    rwa [hlook] at hadmitted

/-! ### Within the period -/

/-- Until the period is over no request but a reset moves the circuit or shifts it. -/
theorem Served.early (hs : Served b now q b' shifts) (h : b.circuit.OpenSince t) (hle : t ≤ now)
    (hlt : now < t + b.settings.openDuration) (hq : q ≠ .reset) :
    b'.circuit.OpenSince t ∧ shifts = [] := by
  cases hs with
  | uncounted incident hno => exact ⟨h, rfl⟩
  | moved q c shifts hcount hmove =>
    rw [h.refresh_early hle hlt] at hmove ⊢
    cases hmove with
    | observed => exact ⟨h, rfl⟩
    | refused _ => exact ⟨h, rfl⟩
    | forgiven _ => exact ⟨h, rfl⟩
    | unheard cause _ => exact ⟨h, rfl⟩
    | admitted hst => exact absurd h.1 hst
    | probed hst _ => cases h.1.symm.trans hst
    | recovered hst _ => cases h.1.symm.trans hst
    | failed cause hst _ => cases h.1.symm.trans hst
    | tripped cause hst _ => cases h.1.symm.trans hst
    | relapsed cause hst => cases h.1.symm.trans hst
    | cleared _ => exact absurd rfl hq
    | forced _ => exact absurd rfl hq

/-- An act opens the circuit. -/
def Opens (b : CircuitBreaker listener) (e : Instant × BreakerAct listener) : Prop :=
  ∃ c ∈ b.changes e, c.2.shift.opens = true

instance (b : CircuitBreaker listener) (e : Instant × BreakerAct listener) :
    Decidable (b.Opens e) :=
  inferInstanceAs (Decidable (∃ c ∈ b.changes e, c.2.shift.opens = true))

/-- A request other than a reset opens the circuit only by a failure that counts. Else the circuit
is afterwards not open, or open since it was. -/
theorem Served.openAtMostSince (hs : Served b now q b' shifts) (h : b.OpenAtMostSince t)
    (hq : q ≠ .reset) :
    b'.OpenAtMostSince t ∨
      ∃ incident, q = .recordFailure incident ∧ b.countsFailure incident = true ∧
        ∃ sh ∈ shifts, sh.opens = true := by
  cases hs with
  | uncounted incident hno => exact Or.inl h
  | moved q c shifts hcount hmove =>
    have hlook : (b.circuit.refresh b.settings.openDuration now).circuit.state ≠ .opened ∨
        (b.circuit.refresh b.settings.openDuration now).circuit.OpenSince t := by
      rcases b.circuit.refresh_cases b.settings.openDuration now with ⟨_, -, -, -, heq⟩ | ⟨heq, -⟩
      · rw [heq]
        exact Or.inl nofun
      · rw [heq]
        exact h
    cases hmove with
    | tripped cause _ _ =>
      exact Or.inr ⟨cause, rfl, hcount cause rfl, _, List.mem_append_right _ List.mem_cons_self, rfl⟩
    | relapsed cause _ =>
      exact Or.inr ⟨cause, rfl, hcount cause rfl, _, List.mem_append_right _ List.mem_cons_self, rfl⟩
    | recovered _ _ => exact Or.inl (Or.inl nofun)
    | cleared _ => exact absurd rfl hq
    | forced _ => exact absurd rfl hq
    | _ => exact Or.inl hlook

theorem Served.openSince_of_opens (hs : Served b now q b' shifts) {sh : Shift} (hsh : sh ∈ shifts)
    (hopens : sh.opens = true) : b'.circuit.OpenSince now := by
  cases hs with
  | uncounted incident hno => cases hsh
  | moved q c shifts hcount hmove =>
    rcases List.mem_append.mp hsh with hsh | hsh
    · cases refresh_shifts hsh
      cases hopens
    · cases hmove with
      | tripped cause _ _ => exact ⟨rfl, rfl⟩
      | relapsed cause _ => exact ⟨rfl, rfl⟩
      | recovered _ _ =>
        cases List.mem_singleton.mp hsh
        cases hopens
      | forced _ =>
        cases List.mem_singleton.mp hsh
        cases hopens
      | _ => cases hsh

/-! ### Acts and runs -/

variable {e : Instant × BreakerAct listener}

theorem perform_early (h : b.circuit.OpenSince t) (hle : t ≤ e.1)
    (hlt : e.1 < t + b.settings.openDuration) (hno : e.2 ≠ .ask .reset) :
    (b.perform e.1 e.2).circuit.OpenSince t ∧ ¬ b.Opens e := by
  obtain ⟨now, act⟩ := e
  cases act with
  | ask q =>
    obtain ⟨hsince, hnone⟩ := (b.served now q).early h hle hlt fun hq => hno (congrArg _ hq)
    refine ⟨hsince, ?_⟩
    rintro ⟨c, hc, -⟩
    obtain ⟨sh, hsh, -⟩ := List.mem_map.mp hc
    rw [hnone] at hsh
    cases hsh
  | subscribe l => exact ⟨h, by simp [Opens, changes]⟩
  | unsubscribe id => exact ⟨h, by simp [Opens, changes]⟩

theorem perform_openAtMostSince (h : b.OpenAtMostSince t) (hno : e.2 ≠ .ask .reset) :
    (b.perform e.1 e.2).OpenAtMostSince t ∨
      ∃ incident, e.2 = .ask (.recordFailure incident) ∧ b.countsFailure incident = true ∧
        b.Opens e := by
  obtain ⟨now, act⟩ := e
  cases act with
  | ask q =>
    rcases (b.served now q).openAtMostSince h fun hq => hno (congrArg _ hq) with
      hsame | ⟨incident, rfl, hcount, sh, hsh, hopens⟩
    · exact Or.inl hsame
    · exact Or.inr ⟨incident, rfl, hcount, _, List.mem_map_of_mem hsh, hopens⟩
  | subscribe l => exact Or.inl h
  | unsubscribe id => exact Or.inl h

theorem openSince_of_opens (h : b.Opens e) : (b.perform e.1 e.2).circuit.OpenSince e.1 := by
  obtain ⟨c, hc, hopens⟩ := h
  obtain ⟨-, q, hq, hsh⟩ := mem_changes hc
  rw [hq]
  exact (b.served e.1 q).openSince_of_opens hsh hopens

/-- In a run a failure that counts, noted at a reading or later, opens the circuit. -/
def OpensAnew (b : CircuitBreaker listener) (first : Instant) (run : BreakerRun listener) : Prop :=
  ∃ before now incident behind, run = before ++ (now, .ask (.recordFailure incident)) :: behind ∧
    first ≤ now ∧ b.countsFailure incident = true ∧
      (b.after before).Opens (now, .ask (.recordFailure incident))

theorem OpensAnew.append {first : Instant} {run : BreakerRun listener}
    (h : b.OpensAnew first run) (more : BreakerRun listener) : b.OpensAnew first (run ++ more) := by
  obtain ⟨before, now, incident, behind, rfl, hrest⟩ := h
  exact ⟨before, now, incident, behind ++ more, by simp, hrest⟩

/-- A run without resets that starts within the period and ends in it. -/
theorem openSince_after {run : BreakerRun listener} (h : b.circuit.OpenSince t)
    (hle : ∀ e ∈ run, t ≤ e.1) (hlt : ∀ e ∈ run, e.1 < t + b.settings.openDuration)
    (hno : ∀ e ∈ run, e.2 ≠ .ask .reset) : (b.after run).circuit.OpenSince t := by
  induction run generalizing b with
  | nil => exact h
  | cons e rest ih =>
    have hmem := @List.mem_cons_self _ e rest
    have hfirst := perform_early h (hle e hmem) (hlt e hmem) (hno e hmem)
    rw [← (b.perform_fixed e.1 e.2).2.1] at hlt
    exact ih hfirst.1 (fun r hr => hle r (List.mem_cons_of_mem e hr))
      (fun r hr => hlt r (List.mem_cons_of_mem e hr)) fun r hr => hno r (List.mem_cons_of_mem e hr)

/-- A run without resets leaves the circuit not open or open since it was, or opens it anew; the
first failure to do so comes when the period is over, since before that it would not be heard. -/
theorem openAtMostSince_after {run : BreakerRun listener} (h : b.circuit.OpenSince t)
    (ho : InTimeOrder run) (hle : ∀ e ∈ run, t ≤ e.1) (hno : ∀ e ∈ run, e.2 ≠ .ask .reset) :
    (b.after run).OpenAtMostSince t ∨ b.OpensAnew (t + b.settings.openDuration) run := by
  induction run using List.reverseRecOn with
  | nil => exact Or.inl (Or.inr h)
  | append_singleton run e ih =>
    obtain ⟨ho', -, hlast⟩ := List.pairwise_append.mp ho
    have hin : ∀ r ∈ run, r ∈ run ++ [e] := fun r hr => List.mem_append_left _ hr
    have hmem : e ∈ run ++ [e] := List.mem_append_right _ List.mem_cons_self
    rcases ih ho' (fun r hr => hle r (hin r hr)) fun r hr => hno r (hin r hr) with hsame | hanew
    · rcases perform_openAtMostSince (e := e) hsame (hno e hmem) with
        hsame' | ⟨incident, hact, hcount, hopens⟩
      · rw [after_append]
        exact Or.inl hsame'
      · refine Or.inr ⟨run, e.1, incident, [], ?_, ?_, ?_, ?_⟩
        · rw [← hact]
        · refine Nat.le_of_not_lt fun hlt => ?_
          have hsince : (b.after run).circuit.OpenSince t :=
            openSince_after h (fun r hr => hle r (hin r hr))
              (fun r hr => Nat.lt_of_le_of_lt (hlast r hr e List.mem_cons_self) hlt)
              fun r hr => hno r (hin r hr)
          rw [← (b.after_fixed run).2.1] at hlt
          exact (perform_early hsince (hle e hmem) hlt (hno e hmem)).2 hopens
        · rw [← hcount, countsFailure, countsFailure, (b.after_fixed run).2.2]
        · rw [← hact]
          exact hopens
    · exact Or.inr (hanew.append [e])

/-! ### The whole period -/

/-- What callers meet at a circuit that has just opened at `t`, in a run after that. -/
structure ExactWindow (b : CircuitBreaker listener) (t : Instant) (run : BreakerRun listener) :
    Prop where
  refused : ∀ before now behind, run = before ++ (now, .ask .acquire) :: behind →
    now < t + b.settings.openDuration →
      ((b.after before).serve now .acquire).answer =
        .refused ⟨b.name, t + b.settings.openDuration - now⟩ ∧
      0 < t + b.settings.openDuration - now ∧
      t + b.settings.openDuration - now ≤ b.settings.openDuration ∧
      ((b.after before).serve now .acquire).breaker.circuit.rejected =
        (b.after before).circuit.rejected + 1
  admitted : ∀ before now behind, run = before ++ (now, .ask .acquire) :: behind →
    t + b.settings.openDuration ≤ now →
      (((b.after before).serve now .acquire).answer = .admitted ∧
        ((b.after before).serve now .acquire).breaker.circuit.rejected =
          (b.after before).circuit.rejected) ∨
      b.OpensAnew (t + b.settings.openDuration) before
  -- whoever was refused and has waited as it was told is not refused by the same opening
  waited : ∀ before now meanwhile later behind refusal,
    run = (before ++ (now, .ask .acquire) :: meanwhile) ++ (later, .ask .acquire) :: behind →
    ((b.after before).serve now .acquire).answer = .refused refusal →
    now + refusal.retryAfter ≤ later →
      ((b.after (before ++ (now, .ask .acquire) :: meanwhile)).serve later .acquire).answer =
        .admitted ∨
      b.OpensAnew (t + b.settings.openDuration) (before ++ (now, .ask .acquire) :: meanwhile)

theorem exactWindow_of_openSince {run : BreakerRun listener} (h : b.circuit.OpenSince t)
    (ho : InTimeOrder run) (hle : ∀ e ∈ run, t ≤ e.1) (hno : ∀ e ∈ run, e.2 ≠ .ask .reset) :
    b.ExactWindow t run := by
  have hrefused : ∀ before now behind, run = before ++ (now, .ask .acquire) :: behind →
      now < t + b.settings.openDuration → t ≤ now ∧
        ((b.after before).serve now .acquire).answer =
          .refused ⟨b.name, t + b.settings.openDuration - now⟩ ∧
        ((b.after before).serve now .acquire).breaker.circuit.rejected =
          (b.after before).circuit.rejected + 1 := by
    rintro before now behind rfl hlt
    obtain ⟨-, -, hlast⟩ := List.pairwise_append.mp ho
    have hsince : (b.after before).circuit.OpenSince t :=
      openSince_after h (fun e he => hle e (List.mem_append_left _ he))
        (fun e he => Nat.lt_of_le_of_lt (hlast e he _ List.mem_cons_self) hlt)
        fun e he => hno e (List.mem_append_left _ he)
    have hnow : t ≤ now := hle (now, .ask .acquire) (by simp)
    obtain ⟨hname, hsettings, -⟩ := b.after_fixed before
    have hserve := acquire_early hsince hnow (hsettings ▸ hlt)
    rw [hname, hsettings] at hserve
    exact ⟨hnow, hserve⟩
  have hadmitted : ∀ before now behind, run = before ++ (now, .ask .acquire) :: behind →
      t + b.settings.openDuration ≤ now →
        (((b.after before).serve now .acquire).answer = .admitted ∧
          ((b.after before).serve now .acquire).breaker.circuit.rejected =
            (b.after before).circuit.rejected) ∨
        b.OpensAnew (t + b.settings.openDuration) before := by
    rintro before now behind rfl hover
    obtain ⟨ho', -, -⟩ := List.pairwise_append.mp ho
    rcases openAtMostSince_after h ho' (fun e he => hle e (List.mem_append_left _ he))
      fun e he => hno e (List.mem_append_left _ he) with hsame | hanew
    · rw [← (b.after_fixed before).2.1] at hover
      exact Or.inl (acquire_late hsame hover)
    · exact Or.inr hanew
  refine ⟨?_, hadmitted, ?_⟩
  · intro before now behind heq hlt
    obtain ⟨hnow, hanswer, hrejected⟩ := hrefused before now behind heq hlt
    exact ⟨hanswer, Nat.sub_pos_of_lt hlt, by lia, hrejected⟩
  · intro before now meanwhile later behind refusal heq hanswer hwait
    have hfirst : run = before ++ (now, .ask .acquire) ::
        (meanwhile ++ (later, .ask .acquire) :: behind) := by
      rw [heq, List.append_assoc, List.cons_append]
    by_cases hlt : now < t + b.settings.openDuration
    · obtain ⟨-, hrefusal, -⟩ := hrefused before now _ hfirst hlt
      obtain rfl : ⟨b.name, t + b.settings.openDuration - now⟩ = refusal :=
        BreakerAnswer.refused.inj (hrefusal.symm.trans hanswer)
      have hsum : now + (t + b.settings.openDuration - now) ≤ later := hwait
      have hover : t + b.settings.openDuration ≤ later := by lia
      exact (hadmitted _ later behind heq hover).imp_left And.left
    · rcases hadmitted before now _ hfirst (Nat.le_of_not_lt hlt) with ⟨hyes, -⟩ | hanew
      · cases hyes.symm.trans hanswer
      · exact Or.inr (hanew.append _)

/-- Whenever an act opens the circuit of a breaker, however it was used before, the open period that
starts then is exact for every use of the breaker without a reset. -/
theorem exactWindow_of_opening {name : String} {s : BreakerSettings} {counts : Incident → Bool}
    (h : create name s counts = .ok b) {past run : BreakerRun listener}
    (ho : InTimeOrder (past ++ e :: run)) (hopens : (b.after past).Opens e)
    (hno : ∀ r ∈ run, r.2 ≠ .ask .reset) :
    (b.after (past ++ [e])).name = name ∧ (b.after (past ++ [e])).settings = s ∧
      (b.after (past ++ [e])).ExactWindow e.1 run := by
  obtain ⟨-, hb⟩ := create_eq h
  obtain ⟨hname, hsettings, -⟩ := b.after_fixed (past ++ [e])
  obtain ⟨-, hrest, -⟩ := List.pairwise_append.mp ho
  obtain ⟨hle, ho'⟩ := List.pairwise_cons.mp hrest
  refine ⟨by rw [hname, hb], by rw [hsettings, hb], exactWindow_of_openSince ?_ ho' hle hno⟩
  rw [after_append]
  exact openSince_of_opens hopens

/-- Calls at the first and the last moment of an open period and at its end, with outcomes that come
in late meanwhile; the probe fails and opens the circuit for another period. -/
def impatience : BreakerRun Unit :=
  [(5, .ask .acquire), (9, .ask (.recordFailure none)), (10, .ask .recordSuccess),
   (400005, .ask .acquire), (1000004, .ask .acquire), (1000005, .ask .acquire),
   (1000006, .ask (.recordFailure none)), (1000007, .ask .acquire)]

theorem exactWindow_of_opening_impatience :
    let s : BreakerSettings := { failureThreshold := 2, openDurationMs := 1 }
    let b : CircuitBreaker Unit := { name := "orders", settings := s }
    let past : BreakerRun Unit := [(0, .ask (.recordFailure none)), (3, .subscribe ())]
    let e : Instant × BreakerAct Unit := (5, .ask (.recordFailure none))
    let opened := b.after (past ++ [e])
    create "orders" s (fun _ => true) = .ok b ∧ InTimeOrder (past ++ e :: impatience) ∧
      (b.after past).Opens e ∧ (∀ r ∈ impatience, r.2 ≠ .ask .reset) ∧
      opened.ExactWindow 5 impatience ∧
      ((opened.after (impatience.take 4)).serve 1000004 .acquire).answer =
        .refused ⟨"orders", 1⟩ ∧
      (opened.after (impatience.take 5)).circuit.rejected = 3 ∧
      ((opened.after (impatience.take 5)).serve 1000005 .acquire).answer = .admitted ∧
      ((opened.after (impatience.take 7)).serve 1000007 .acquire).answer =
        .refused ⟨"orders", 999999⟩ := by
  intro s b past e opened
  have hb : create "orders" s (fun _ => true) = .ok b := rfl
  have ho : InTimeOrder (past ++ e :: impatience) := by decide
  have hopens : (b.after past).Opens e := by decide
  have hno : ∀ r ∈ impatience, r.2 ≠ .ask .reset := by decide
  obtain ⟨-, -, hwindow⟩ := exactWindow_of_opening hb ho hopens hno
  exact ⟨hb, ho, hopens, hno, hwindow, by decide, by decide, by decide, by decide⟩

end CircuitBreaker

end Delivery
