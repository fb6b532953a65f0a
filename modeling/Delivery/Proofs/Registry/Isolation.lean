import Delivery.Proofs.Registry.InLine

/-!
# Transports are isolated from each other

Main statement (`isolated_of_create`): under every key a run sees what breakers that stand alone
would say, so the acts that concern other keys only can be left out and nobody using this key
notices. A breaker that was taken out of the registry goes on working for those who hold it and is
not reached through the registry again; the next breaker of the key starts closed.
-/

namespace Delivery

variable {listener : Type} {settings : RegistrySettings} {key : String}

/-! ### Runs -/

namespace RegistrySession

variable {σ : RegistrySession listener} {D : Docket}

/-- A session with a new registry. -/
def start (r : Registry listener) : RegistrySession listener := ⟨r, []⟩

/-- What one act preserves, a run preserves, and under the key is said what the docket says. -/
theorem InLine.run (ho : σ.Orderly) {now : Instant} (h : InLine settings key D σ now)
    {run : RegistryRun listener} (hstart : ∀ e ∈ run, now ≤ e.1) (ht : InTimeOrder run) :
    σ.view key run = D.replies settings key (concerning key run) ∧
      (σ.after run).Orderly ∧
      ∀ later, now ≤ later → (∀ e ∈ run, e.1 ≤ later) →
        InLine settings key (D.after settings key (concerning key run)) (σ.after run) later := by
  induction run generalizing σ D now with
  | nil => exact ⟨rfl, ho, fun later hle _ => h.mono hle⟩
  | cons e rest ih =>
    obtain ⟨hle, ht'⟩ := List.pairwise_cons.mp ht
    have hnow : InLine settings key D σ e.1 := h.mono (hstart e List.mem_cons_self)
    obtain ⟨hview, ho', hafter⟩ := ih (ho.perform e.1 e.2) (hnow.perform ho e.2) hle ht'
    have hlast := fun later (hlater : ∀ e' ∈ e :: rest, e'.1 ≤ later) =>
      hafter later (hlater e List.mem_cons_self) fun e' he' => hlater e' (List.mem_cons_of_mem _ he')
    rw [concerning_cons]
    by_cases hc : e.2.concerns key = true
    · rw [if_pos hc] at hview hlast
      rw [view, if_pos hc, if_pos hc, hview, hnow.reply_eq ho e.2 hc]
      exact ⟨rfl, ho', fun later _ => hlast later⟩
    · rw [if_neg hc] at hview hlast
      rw [view, if_neg hc, if_neg hc, hview]
      exact ⟨rfl, ho', fun later _ => hlast later⟩

theorem start_orderly {r : Registry listener} (hb : r.breakers = []) (hr : r.registered = []) :
    (start r).Orderly where
  length_eq := by simp [start, hb]
  distinct := List.nodup_nil
  counted := nofun
  filed := by simp [start, hr]
  keys := by simp [start, hr]

/-- Usable settings give a breaker that starts closed. -/
theorem alone_eq_ok (name : String) {s : BreakerSettings}
    (h : s.enabled = true → s.validate = .ok ()) :
    ∃ b, Breaker.alone name s = .ok b ∧ ∀ now, (b.serve now .observe).answer = .stats {} := by
  unfold Breaker.alone
  cases he : s.enabled with
  | false => exact ⟨_, rfl, fun _ => rfl⟩
  | true => exact ⟨_, by rw [CircuitBreaker.create, h he]; rfl, fun _ => rfl⟩

/-- Who asks for a key that has no breaker gets a new one, if its settings can be used. -/
theorem InLine.fresh (ho : σ.Orderly) {now later : Instant} (h : InLine settings key D σ now)
    (hle : now ≤ later) {name : String} (hname : keyOf name = some key)
    (hcurrent : D.current = none) {explicit : Option BreakerSettings}
    (husable : (explicit.getD (settings.resolve key)).enabled = true →
      (explicit.getD (settings.resolve key)).validate = .ok ()) :
    let handle : BreakerHandle := ⟨key, D.breakers.length⟩
    let got := σ.perform now (.getOrCreate name explicit)
    handle ∉ σ.handles ∧ got.1 = .held handle ∧
      (got.2.perform later (.ask handle .observe)).1 = .answer (.stats {}) := by
  intro handle got
  obtain ⟨b, hb, hclosed⟩ := alone_eq_ok (trimName name) husable
  have hnew : Docket.newcomer settings key name explicit = .ok b := hb
  have hc : (RegistryAct.getOrCreate name explicit : RegistryAct listener).concerns key = true :=
    beq_iff_eq.mpr hname
  have hnot : handle ∉ σ.handles := by
    intro hmem
    have hlt := ho.counted handle hmem
    rw [h.made_eq] at hlt
    exact Nat.lt_irrefl _ hlt
  have hgot := h.reply_eq ho _ hc
  have hnext := (h.perform ho (.getOrCreate name explicit)).mono hle
  simp only [Docket.reply, hcurrent, hnew] at hgot
  simp only [if_pos hc, Docket.note, hcurrent, hnew] at hnext
  have hanswer := hnext.reply_eq (ho.perform now _) (.ask handle .observe) (beq_self_eq_true key)
  have hlone : (D.breakers ++ [⟨b, []⟩])[handle.generation]? = some ⟨b, []⟩ := by simp [handle]
  simp only [Docket.reply, hlone, Option.map_some, Option.getD_some] at hanswer
  refine ⟨hnot, RegistryReply.eq_of_under hgot (by simp), ?_⟩
  exact (RegistryReply.eq_of_under hanswer (by simp)).trans (congrArg _ (hclosed later))

end RegistrySession

/-! ### Isolation -/

namespace Registry

open RegistrySession

/-- The docket of a key after a run. -/
def docket (r : Registry listener) (key : String) (run : RegistryRun listener) : Docket :=
  Docket.after r.settings key {} (concerning key run)

/-- What is true of one key in a run, whatever the run does with others. -/
structure Isolated (r : Registry listener) (run : RegistryRun listener) (key : String) : Prop where
  -- each breaker answers like one that stands alone, and so it does if all else is left out
  alone : (start r).view key run = Docket.replies r.settings key {} (concerning key run)
  deleted : (start r).view key (concerning key run) = (start r).view key run
  -- a breaker that was taken out hears only what is asked of its handle, and is never found again
  removed : ∀ before t name behind, run = before ++ (t, .remove name) :: behind →
    keyOf name = some key →
    (∀ (g : Nat) (lone : LoneBreaker), (r.docket key before).breakers[g]? = some lone →
      (r.docket key run).breakers[g]? = some (lone.ask (askedOf ⟨key, g⟩ behind))) ∧
    ∀ g, (r.docket key run).current = some g → (r.docket key before).breakers.length ≤ g
  vacant : ∀ before t name behind, run = before ++ (t, .remove name) :: behind →
    keyOf name = some key →
    (∀ e ∈ behind, ∀ name' explicit, e.2 = .getOrCreate name' explicit → keyOf name' ≠ some key) →
    ((start r).after run).registry.get? name = none ∧
      ∀ now, (∀ e ∈ run, e.1 ≤ now) →
        (((start r).after run).perform now .states).1.under key = .states []
  -- whoever asks then for the key gets a new breaker, which is closed and has counted nothing
  fresh : ∀ name explicit now later, (∀ e ∈ run, e.1 ≤ now) → now ≤ later →
    keyOf name = some key → ((start r).after run).registry.get? name = none →
    (∀ s : BreakerSettings, explicit = some s → s.enabled = true → s.validate = .ok ()) →
    let h : BreakerHandle := ⟨key, (r.docket key run).breakers.length⟩
    let got := ((start r).after run).perform now (.getOrCreate name explicit)
    h ∉ ((start r).after run).handles ∧ got.1 = .held h ∧
      (got.2.perform later (.ask h .observe)).1 = .answer (.stats {})

theorem create_eq {settings : RegistrySettings} {r : Registry listener}
    (h : create settings = .ok r) : r.breakers = [] ∧ r.registered = [] ∧ r.settings.Valid := by
  have hvalid := (Reachable.created h).settings_valid
  obtain ⟨s, -, hr⟩ := bind_eq_ok_iff.mp h
  cases hr
  exact ⟨rfl, rfl, hvalid⟩

theorem get?_of_keyOf (r : Registry listener) {name key : String} (h : keyOf name = some key) :
    r.get? name = r.registered.lookup key := by
  rw [get?, normaliseName_eq_ok_iff.mpr h]

variable {r : Registry listener} {run : RegistryRun listener}

theorem docket_split (key : String) (before behind : RegistryRun listener)
    (e : Instant × RegistryAct listener) (hc : e.2.concerns key = true) :
    r.docket key (before ++ e :: behind) =
      ((r.docket key before).note r.settings key e.1 e.2).after r.settings key
        (concerning key behind) := by
  simp only [docket, concerning, List.filter_append, List.filter_cons, if_pos hc,
    Docket.after_append, Docket.after_cons]

theorem docket_removed {before behind : RegistryRun listener} {t : Instant} {name : String}
    (hname : keyOf name = some key) :
    (∀ (g : Nat) (lone : LoneBreaker), (r.docket key before).breakers[g]? = some lone →
      (r.docket key (before ++ (t, .remove name) :: behind)).breakers[g]? =
        some (lone.ask (askedOf ⟨key, g⟩ behind))) ∧
    ∀ g, (r.docket key (before ++ (t, .remove name) :: behind)).current = some g →
      (r.docket key before).breakers.length ≤ g := by
  have hc : (RegistryAct.remove name : RegistryAct listener).concerns key = true :=
    beq_iff_eq.mpr hname
  rw [docket_split key before behind (t, .remove name) hc]
  have hsuperseded : ({ r.docket key before with current := none } : Docket).Superseded
      (r.docket key before).breakers.length := ⟨Nat.le_refl _, nofun⟩
  obtain ⟨⟨-, hcurrent⟩, hbreakers⟩ := hsuperseded.after r.settings behind
  refine ⟨fun g lone hg => ?_, hcurrent⟩
  rw [Docket.note, hbreakers g (List.getElem?_eq_some_iff.mp hg).1, hg, Option.map_some]

theorem docket_vacant {before behind : RegistryRun listener} {t : Instant} {name : String}
    (hname : keyOf name = some key) (hnone : ∀ e ∈ behind, ∀ name' explicit,
      e.2 = .getOrCreate name' explicit → keyOf name' ≠ some key) :
    (r.docket key (before ++ (t, .remove name) :: behind)).current = none := by
  rw [docket_split key before behind (t, .remove name) (beq_iff_eq.mpr hname)]
  exact Docket.after_current_eq_none r.settings rfl hnone

theorem exists_last (run : RegistryRun listener) : ∃ last, ∀ e ∈ run, e.1 ≤ last := by
  induction run with
  | nil => exact ⟨0, by simp⟩
  | cons e rest ih =>
    obtain ⟨last, hlast⟩ := ih
    refine ⟨max e.1 last, fun e' he' => ?_⟩
    rcases List.mem_cons.mp he' with rfl | hmem
    · exact Nat.le_max_left ..
    · exact Nat.le_trans (hlast e' hmem) (Nat.le_max_right ..)

/-- Every key of a new registry is isolated from the others in every run. -/
theorem isolated_of_create {settings : RegistrySettings} (h : create settings = .ok r)
    (ht : InTimeOrder run) (key : String) : r.Isolated run key := by
  obtain ⟨hbreakers, hregistered, hvalid⟩ := create_eq h
  have horderly : (start r).Orderly := start_orderly hbreakers hregistered
  have hstart : InLine r.settings key {} (start r) 0 := InLine.start hregistered 0
  have hview : ∀ run : RegistryRun listener, InTimeOrder run →
      (start r).view key run = Docket.replies r.settings key {} (concerning key run) :=
    fun run ht => (hstart.run horderly (by simp) ht).1
  obtain ⟨-, ho, hline⟩ := hstart.run horderly (by simp) ht
  have hlater : ∀ now, (∀ e ∈ run, e.1 ≤ now) →
      InLine r.settings key (r.docket key run) ((start r).after run) now :=
    fun now => hline now (Nat.zero_le _)
  obtain ⟨last, hlast⟩ := exists_last run
  exact {
    alone := hview run ht
    deleted := by
      have hown : InTimeOrder (concerning key run) := ht.sublist List.filter_sublist
      rw [hview run ht, hview _ hown, concerning_concerning]
    removed := by
      rintro before t name behind rfl hname
      exact docket_removed hname
    vacant := by
      rintro before t name behind rfl hname hnone
      have hcurrent : (r.docket key (before ++ (t, .remove name) :: behind)).current = none :=
        docket_vacant hname hnone
      constructor
      · rw [get?_of_keyOf _ hname]
        exact (hlater last hlast).lookup_eq_none.mpr hcurrent
      · intro now hnow
        have hstates := (hlater now hnow).reply_eq ho .states rfl
        rw [hstates, Docket.reply, hcurrent]
        rfl
    fresh := by
      intro name explicit now later hnow hle hname hget husable
      rw [get?_of_keyOf _ hname] at hget
      have hline := hlater now hnow
      refine hline.fresh ho hle hname (hline.lookup_eq_none.mp hget) ?_
      cases explicit with
      | none => exact fun _ => hvalid.resolve key
      | some s => exact husable s rfl }

/-- A transport fails and its breaker is taken out while it is open, so that a reset of all others
does not reach it; the next breaker of the transport is closed, and the old one goes on to probe. -/
def replacedBreaker : RegistryRun Unit :=
  [(0, .getOrCreate " Orders " none), (1, .getOrCreate "billing" none),
   (2, .ask ⟨"orders", 0⟩ (.recordFailure none)), (3, .ask ⟨"billing", 0⟩ (.recordFailure none)),
   (4, .states), (5, .remove "ORDERS"), (6, .resetAll), (7, .ask ⟨"orders", 0⟩ .acquire),
   (8, .getOrCreate "orders" none), (9, .ask ⟨"orders", 1⟩ .observe), (10, .states),
   (1000002, .ask ⟨"orders", 0⟩ .observe)]

theorem isolated_of_create_replaced :
    let defaults : BreakerSettings := { failureThreshold := 1, openDurationMs := 1 }
    let r : Registry Unit := { settings := { defaults } }
    create { defaults } = .ok r ∧ InTimeOrder replacedBreaker ∧
      r.Isolated replacedBreaker "orders" ∧ r.Isolated replacedBreaker "billing" ∧
      (start r).view "orders" replacedBreaker =
        [.held ⟨"orders", 0⟩, .answer .noted, .states [("orders", .opened)], .removed true, .done,
         .answer (.refused ⟨"Orders", 999995⟩), .held ⟨"orders", 1⟩, .answer (.stats {}),
         .states [("orders", .closed)], .answer (.stats ⟨.halfOpen, 1, 0, 1, 1⟩)] ∧
      (start r).view "billing" replacedBreaker =
        [.held ⟨"billing", 0⟩, .answer .noted, .states [("billing", .opened)], .done,
         .states [("billing", .closed)]] := by
  intro defaults r
  have hr : create { defaults } = .ok r := rfl
  have ht : InTimeOrder replacedBreaker := by decide
  exact ⟨hr, ht, isolated_of_create hr ht "orders", isolated_of_create hr ht "billing",
    by decide +kernel, by decide +kernel⟩

end Registry

end Delivery
