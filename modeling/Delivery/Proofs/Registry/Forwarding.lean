import Delivery.Proofs.Registry.Requests

/-!
# Every breaker tells its registry

Every circuit breaker of a registry has the registry as its first listener, from its creation on and
for good, as long as nobody ends a subscription of a breaker that is not theirs. So a change of any
of them, be it registered or not, goes to all listeners of the registry and then to those of the
breaker (`Registry.notices_carryOut`). The changes of a run are those of single circuits, each from
its stored state before the run to the one after it (`Registry.passage_of_run`).
-/

namespace Delivery

variable {listener : Type}

/-! ### Single breakers -/

namespace Breaker

/-- The changes that an act makes. One that is always closed makes none. -/
def changes (e : Instant × BreakerAct listener) : Breaker listener → History
  | .circuit b => b.changes e
  | .alwaysClosed _ => []

/-- The stored circuit. One that is always closed counts as new. -/
def stored : Breaker listener → Circuit
  | .circuit b => b.circuit
  | .alwaysClosed _ => {}

/-- The subscription of a listener of its own, as a breaker of a registry keeps it. -/
def tag (sub : Nat × listener) : Nat × Audience listener := (sub.1, .only sub.2)

def private? (sub : Nat × Audience listener) : Option (Nat × listener) :=
  match sub.2 with
  | .registry => none
  | .only l => some (sub.1, l)

/-- The subscriptions to a breaker of a registry other than the one of the registry. -/
def privates : Breaker (Audience listener) → List (Nat × listener)
  | .circuit b => b.listeners.filterMap private?
  | .alwaysClosed _ => []

/-- The registry is the first listener, and all others have subscribed after it. -/
def Wired : Breaker (Audience listener) → Prop
  | .circuit b => 2 ≤ b.nextSubscription ∧ ∃ subs : List (Nat × listener),
      b.listeners = (1, .registry) :: subs.map tag ∧ ∀ sub ∈ subs, 2 ≤ sub.1
  | .alwaysClosed _ => True

variable {b : Breaker (Audience listener)} {now : Instant} {act : BreakerAct (Audience listener)}

theorem wired_newborn (name : String) (s : BreakerSettings) :
    (newborn name s : Breaker (Audience listener)).Wired := by
  unfold newborn
  split
  · exact ⟨Nat.le_refl 2, [], rfl, nofun⟩
  · trivial

theorem stored_newborn (name : String) (s : BreakerSettings) :
    (newborn name s : Breaker (Audience listener)).stored = {} := by
  unfold newborn
  split <;> rfl

theorem privates_newborn (name : String) (s : BreakerSettings) :
    (newborn name s : Breaker (Audience listener)).privates = [] := by
  unfold newborn
  split <;> rfl

theorem filterMap_tag (subs : List (Nat × listener)) : (subs.map tag).filterMap private? = subs := by
  rw [List.filterMap_map]
  exact List.filterMap_some

theorem Wired.listeners_eq {b : CircuitBreaker (Audience listener)} (h : (circuit b).Wired) :
    b.listeners = (1, .registry) :: (circuit b).privates.map tag := by
  obtain ⟨-, subs, hsubs, -⟩ := h
  rw [privates, hsubs, List.filterMap_cons_none rfl, filterMap_tag]

theorem Wired.perform (h : b.Wired) (hown : act ≠ .unsubscribe 1)
    (honly : act ≠ .subscribe .registry) : (b.perform now act).Wired := by
  cases b with
  | alwaysClosed name => trivial
  | circuit b =>
    obtain ⟨hnext, subs, hsubs, hids⟩ := h
    cases act with
    | ask q =>
      obtain ⟨c, heq⟩ := b.serve_circuit_only now q
      show (circuit (b.serve now q).breaker).Wired
      rw [heq]
      exact ⟨hnext, subs, hsubs, hids⟩
    | subscribe l =>
      cases l with
      | registry => exact absurd rfl honly
      | only l =>
        refine ⟨Nat.le_succ_of_le hnext, subs ++ [(b.nextSubscription, l)], ?_, ?_⟩
        · show b.listeners ++ [(b.nextSubscription, .only l)] = _
          rw [hsubs, List.map_append]
          rfl
        · intro sub hsub
          rcases List.mem_append.mp hsub with hsub | hsub
          · exact hids sub hsub
          · rw [List.mem_singleton.mp hsub]
            exact hnext
    | unsubscribe id =>
      refine ⟨hnext, subs.filter (·.1 != id), ?_, fun sub hsub => hids sub (List.mem_filter.mp hsub).1⟩
      have hne : 1 ≠ id := fun heq => hown (by rw [← heq])
      show b.listeners.filter (·.1 != id) = _
      rw [hsubs, List.filter_cons_of_pos (by simpa using hne), List.filter_map]
      rfl

theorem privates_ask (b : Breaker (Audience listener)) (now : Instant) (q : BreakerRequest) :
    (b.perform now (.ask q)).privates = b.privates := by
  cases b with
  | alwaysClosed name => rfl
  | circuit b =>
    obtain ⟨c, heq⟩ := b.serve_circuit_only now q
    show (circuit (b.serve now q).breaker).privates = _
    rw [heq]
    rfl

/-- Only a subscription adds to the listeners of a breaker. -/
theorem mem_privates_perform {sub : Nat × listener} (h : sub ∈ (b.perform now act).privates) :
    sub ∈ b.privates ∨ act = .subscribe (.only sub.2) := by
  cases b with
  | alwaysClosed name => cases h
  | circuit b =>
    cases act with
    | ask q => exact Or.inl ((circuit b).privates_ask now q ▸ h)
    | subscribe l =>
      have hmem : sub ∈ (b.listeners ++ [(b.nextSubscription, l)]).filterMap private? := h
      rw [List.filterMap_append] at hmem
      rcases List.mem_append.mp hmem with hold | hnew
      · exact Or.inl hold
      · cases l with
        | registry => cases hnew
        | only l =>
          rw [List.mem_singleton.mp hnew]
          exact Or.inr rfl
    | unsubscribe id =>
      obtain ⟨entry, hentry, hsub⟩ := List.mem_filterMap.mp h
      exact Or.inl (List.mem_filterMap.mpr ⟨entry, (List.mem_filter.mp hentry).1, hsub⟩)

end Breaker

/-! ### Changes of all breakers -/

/-- Changes of circuits, each with the number of its breaker. -/
abbrev RegistryHistory := List (Nat × Instant × StateChange)

/-- The changes of a single breaker. -/
def RegistryHistory.own (h : RegistryHistory) (n : Nat) : History :=
  h.filterMap fun c => if c.1 = n then some c.2 else none

namespace Registry

def changes (r : Registry listener) (now : Instant) (d : BreakerDeed listener) : RegistryHistory :=
  ((r.breakers[d.1]?.map (Breaker.changes (now, d.2))).getD []).map (d.1, ·)

def changesAll (r : Registry listener) (now : Instant) : List (BreakerDeed listener) →
    RegistryHistory
  | [] => []
  | d :: rest => r.changes now d ++ (r.perform now d).changesAll now rest

/-- All changes that a run makes, of all breakers that the registry has made or makes in it. -/
def history (r : Registry listener) : RegistryLog listener → RegistryHistory
  | [] => []
  | e :: rest => r.changesAll e.1 (r.deeds e.2) ++ (r.carryOut e.1 e.2).registry.history rest

/-- All notices that a run sends. -/
def record (r : Registry listener) : RegistryLog listener → List (Instant × Notice listener)
  | [] => []
  | e :: rest =>
    (r.carryOut e.1 e.2).notices.map (e.1, ·) ++ (r.carryOut e.1 e.2).registry.record rest

/-- The subscriptions of the registry, and then those of a single breaker. -/
def hearers (r : Registry listener) (n : Nat) : List (Nat × listener) :=
  r.listeners ++ (r.breakers[n]?.map Breaker.privates).getD []

/-- A change is told to each of its hearers once. -/
def telling (r : Registry listener) (c : Nat × Instant × StateChange) :
    List (Instant × Notice listener) :=
  (r.hearers c.1).map fun sub => (c.2.1, ⟨sub.2, c.2.2⟩)

variable {r : Registry listener} {now : Instant}

theorem record_append (r : Registry listener) (first second : RegistryLog listener) :
    r.record (first ++ second) = r.record first ++ (r.after first).record second := by
  induction first generalizing r with
  | nil => rfl
  | cons e rest ih => rw [List.cons_append, record, record, ih, List.append_assoc, after_cons]

/-! ### Every breaker tells the registry -/

def Wired (r : Registry listener) : Prop := ∀ b ∈ r.breakers, b.Wired

/-- Who hears of a change of one breaker does not depend on what another one is asked. -/
theorem hearers_perform_ask (r : Registry listener) (now : Instant) (m : Nat) (q : BreakerRequest)
    (n : Nat) : (r.perform now (m, .ask q)).hearers n = r.hearers n := by
  have hat := r.alter_breakers m (Breaker.perform now (.ask q)) n
  have hsame : (r.perform now (m, .ask q)).breakers[n]?.map Breaker.privates =
      r.breakers[n]?.map Breaker.privates := by
    rw [perform, hat]
    split
    · rw [Option.map_map]
      congr 1
      exact funext fun b => b.privates_ask now q
    · rfl
  rw [hearers, hsame, hearers]
  rfl

theorem mem_perform {d : BreakerDeed listener} {b : Breaker (Audience listener)}
    (h : b ∈ (r.perform now d).breakers) :
    b ∈ r.breakers ∨ ∃ b' ∈ r.breakers, b = b'.perform now d.2 := by
  obtain ⟨n, hn⟩ := List.mem_iff_getElem?.mp h
  have hat := r.alter_breakers d.1 (Breaker.perform now d.2) n
  rw [perform, hat] at hn
  split at hn
  · obtain ⟨b', hb', rfl⟩ := Option.map_eq_some_iff.mp hn
    exact Or.inr ⟨b', List.mem_of_getElem? hb', rfl⟩
  · exact Or.inl (List.mem_of_getElem? hn)

theorem all_performAll {P : Breaker (Audience listener) → Prop} {deeds : List (BreakerDeed listener)}
    (h : ∀ b ∈ r.breakers, P b) (hperform : ∀ d ∈ deeds, ∀ b, P b → P (b.perform now d.2)) :
    ∀ b ∈ (r.performAll now deeds).breakers, P b := by
  refine performAll_keeps (P := fun r => ∀ b ∈ r.breakers, P b) h fun r hr d hd b hb => ?_
  rcases mem_perform hb with hsame | ⟨b', hb', rfl⟩
  · exact hr b hsame
  · exact hperform d hd b' (hr b' hb')

/-- A request that is not for breakers leaves them as they are, except that it may add a new one. -/
theorem breakers_carryOut (r : Registry listener) (now : Instant) {q : RegistryRequest listener}
    (h : q.isForBreakers = false) :
    (r.carryOut now q).registry.breakers = r.breakers ∨ ∃ name s,
      (r.carryOut now q).registry.breakers = r.breakers ++ [Breaker.newborn name s] := by
  have hfiled := r.filed now h
  generalize (r.carryOut now q).registry = r' at hfiled
  cases hfiled with
  | entered name key label explicit s => exact Or.inr ⟨label, s, rfl⟩
  | _ => exact Or.inl rfl

/-- What holds of every new breaker and is kept by every act of a request holds of all breakers
after it if it did before. -/
theorem all_carryOut {P : Breaker (Audience listener) → Prop} {q : RegistryRequest listener}
    (h : ∀ b ∈ r.breakers, P b) (hnew : ∀ name s, P (Breaker.newborn name s))
    (hperform : ∀ d ∈ r.deeds q, ∀ b, P b → P (b.perform now d.2)) :
    ∀ b ∈ (r.carryOut now q).registry.breakers, P b := by
  cases hq : q.isForBreakers with
  | true =>
    rw [carryOut_deeds r now hq]
    exact all_performAll h hperform
  | false =>
    rcases r.breakers_carryOut now hq with heq | ⟨name, s, heq⟩
    · rw [heq]
      exact h
    · rw [heq]
      intro b hb
      rcases List.mem_append.mp hb with hold | hmade
      · exact h b hold
      · rw [List.mem_singleton.mp hmade]
        exact hnew name s

/-- No request subscribes the registry once more, and only those that end or make a subscription
of a breaker come down to that. -/
theorem act_of_mem_deeds {q : RegistryRequest listener} {d : BreakerDeed listener}
    (h : d ∈ r.deeds q) : d.2 ≠ .subscribe .registry ∧
      (∀ id, d.2 = .unsubscribe id → q = .unsubscribe d.1 id) ∧
      ∀ l, d.2 = .subscribe (.only l) → q = .subscribe d.1 l := by
  cases q with
  | states =>
    obtain ⟨e, -, rfl⟩ := List.mem_map.mp h
    exact ⟨nofun, nofun, nofun⟩
  | resetAll =>
    obtain ⟨e, -, rfl⟩ := List.mem_map.mp h
    exact ⟨nofun, nofun, nofun⟩
  | serve n q =>
    rw [List.mem_singleton.mp h]
    exact ⟨nofun, nofun, nofun⟩
  | subscribe n l =>
    rw [List.mem_singleton.mp h]
    exact ⟨nofun, nofun, fun l' hl' => by cases hl'; rfl⟩
  | unsubscribe n id =>
    rw [List.mem_singleton.mp h]
    exact ⟨nofun, fun id' hid' => by cases hid'; rfl, nofun⟩
  | _ => cases h

theorem Wired.ask (h : r.Wired) (now : Instant) (n : Nat) (q : BreakerRequest) :
    (r.perform now (n, .ask q)).Wired := by
  intro b hb
  rcases mem_perform hb with hsame | ⟨b', hb', rfl⟩
  · exact h b hsame
  · exact (h b' hb').perform nofun nofun

theorem Wired.carryOut (h : r.Wired) {q : RegistryRequest listener}
    (hown : ∀ n, q ≠ .unsubscribe n 1) : (r.carryOut now q).registry.Wired :=
  all_carryOut h Breaker.wired_newborn fun d hd b hb => by
    obtain ⟨honly, hends, -⟩ := act_of_mem_deeds hd
    exact hb.perform (fun heq => hown d.1 (hends 1 heq)) honly

theorem Wired.after (h : r.Wired) {run : RegistryLog listener}
    (hown : ∀ e ∈ run, ∀ n, e.2 ≠ .unsubscribe n 1) : (r.after run).Wired :=
  after_keeps (P := Wired) h fun _ h e he => h.carryOut (hown e he)

/-! ### Notices -/

/-- A notice to the registry goes to its listeners, and one to a listener of its own to that one. -/
theorem expand_all (r : Registry listener) (subs : List (Nat × listener))
    (c : Instant × StateChange) :
    ((1, .registry) :: subs.map Breaker.tag).flatMap
        (fun sub => (r.expand ⟨sub.2, c.2⟩).map (c.1, ·)) =
      (r.listeners ++ subs).map fun sub => (c.1, ⟨sub.2, c.2⟩) := by
  have hregistry : (r.expand ⟨.registry, c.2⟩).map (c.1, ·) =
      r.listeners.map fun sub => (c.1, ⟨sub.2, c.2⟩) := List.map_map ..
  have hsubs : (subs.map Breaker.tag).flatMap (fun sub => (r.expand ⟨sub.2, c.2⟩).map (c.1, ·)) =
      subs.map fun sub => (c.1, ⟨sub.2, c.2⟩) := by
    rw [List.flatMap_map]
    exact List.map_eq_flatMap.symm
  rw [List.flatMap_cons, List.map_append, hregistry, hsubs]

/-- What a breaker is asked makes it tell all hearers of each of its changes. -/
theorem notices_serve (h : r.Wired) (n : Nat) (now : Instant) (q : BreakerRequest) :
    (r.serve n now q).notices.map (now, ·) = (r.changes now (n, .ask q)).flatMap r.telling := by
  unfold Registry.serve changes
  cases hb : r.breakers[n]? with
  | none => rfl
  | some b =>
    cases b with
    | alwaysClosed name => rfl
    | circuit b =>
      have hlisteners := (h _ (List.mem_of_getElem? hb)).listeners_eq
      have htold : (b.serve now q).notices.map (now, ·) =
          (b.changes (now, .ask q)).flatMap fun c => b.listeners.map fun sub =>
            (c.1, ⟨sub.2, c.2⟩) := b.told_eq (now, .ask q)
      have hexpand : ((b.serve now q).notices.flatMap r.expand).map (now, ·) =
          ((b.serve now q).notices.map (now, ·)).flatMap fun m =>
            (r.expand m.2).map (m.1, ·) := by
        rw [List.map_flatMap, List.flatMap_map]
      show ((b.serve now q).notices.flatMap r.expand).map (now, ·) =
        ((b.changes (now, .ask q)).map (n, ·)).flatMap r.telling
      rw [hexpand, htold, List.flatMap_assoc, List.flatMap_map]
      refine List.flatMap_congr fun c _ => ?_
      rw [List.flatMap_map, hlisteners, expand_all, telling, hearers, hb]
      rfl

theorem notices_serveAll (h : r.Wired) (now : Instant) (q : BreakerRequest)
    (registered : List (String × Nat)) :
    (serveAll now q registered r).2.2.map (now, ·) =
      (r.changesAll now (registered.map fun e => (e.2, .ask q))).flatMap r.telling := by
  induction registered generalizing r with
  | nil => rfl
  | cons e rest ih =>
    have hnext : (r.serve e.2 now q).registry = r.perform now (e.2, .ask q) :=
      carryOut_deeds r now (q := .serve e.2 q) rfl
    have hwired : (r.perform now (e.2, .ask q)).Wired := h.ask now e.2 q
    have htelling : (r.perform now (e.2, .ask q)).telling = r.telling := funext fun c => by
      rw [telling, hearers_perform_ask, telling]
    show ((r.serve e.2 now q).notices ++ (serveAll now q rest _).2.2).map (now, ·) = _
    rw [hnext, List.map_append, notices_serve h, ih hwired, htelling]
    exact List.flatMap_append.symm

/-- Every request is told of as it should be: each change that it makes to each of the hearers. -/
theorem notices_carryOut (h : r.Wired) (now : Instant) (q : RegistryRequest listener) :
    (r.carryOut now q).notices.map (now, ·) =
      (r.changesAll now (r.deeds q)).flatMap r.telling := by
  have hnone (d : BreakerDeed listener) (hd : ∀ b : Breaker (Audience listener),
      b.changes (now, d.2) = []) : r.changesAll now [d] = [] := by
    rw [changesAll, changesAll, List.append_nil, changes]
    cases r.breakers[d.1]? with
    | none => rfl
    | some b => exact congrArg (List.map (d.1, ·)) (hd b)
  cases q with
  | getOrCreate name explicit =>
    simp only [carryOut]
    split <;> rfl
  | states => exact notices_serveAll h now .observe r.registered
  | resetAll => exact notices_serveAll h now .reset r.registered
  | serve n q =>
    show (r.serve n now q).notices.map (now, ·) = (r.changes now (n, .ask q) ++ []).flatMap _
    rw [List.append_nil, notices_serve h]
  | subscribe n l =>
    rw [deeds, hnone _ fun b => by cases b <;> rfl]
    rfl
  | unsubscribe n id =>
    rw [deeds, hnone _ fun b => by cases b <;> rfl]
    rfl
  | _ => rfl

/-! ### Subscriptions that are ended by their owners -/

/-- The subscription that a request makes at a breaker. -/
def handedOut (r : Registry listener) : RegistryRequest listener → List (Nat × Nat)
  | .subscribe number l => [(number, (r.subscribe number l).1)]
  | _ => []

/-- In a run only such subscriptions of a breaker are ended as this breaker has handed out before.
Those in `given` were handed out before the run. -/
def endsOwn (r : Registry listener) (given : List (Nat × Nat)) : RegistryLog listener → Bool
  | [] => true
  | e :: rest =>
    (match e.2 with
      | .unsubscribe number id => given.contains (number, id)
      | _ => true) &&
    (r.carryOut e.1 e.2).registry.endsOwn (given ++ r.handedOut e.2) rest

/-- No breaker hands out the subscription of the registry. -/
theorem handedOut_ne_one (h : r.Wired) (q : RegistryRequest listener) :
    ∀ p ∈ r.handedOut q, p.2 ≠ 1 := by
  cases q with
  | subscribe n l =>
    intro p hp
    rw [List.mem_singleton.mp hp]
    show (r.subscribe n l).1 ≠ 1
    unfold Registry.subscribe
    split
    · rename_i b hb
      cases b with
      | alwaysClosed name => exact nofun
      | circuit b =>
        have hnext : 2 ≤ b.nextSubscription := (h _ (List.mem_of_getElem? hb)).1
        show b.nextSubscription ≠ 1
        omega
    · exact nofun
  | _ => exact nofun

theorem ne_unsubscribe_one (h : r.Wired) {given : List (Nat × Nat)}
    (hgiven : ∀ p ∈ given, p.2 ≠ 1) {run : RegistryLog listener}
    (hown : r.endsOwn given run = true) : ∀ e ∈ run, ∀ n, e.2 ≠ .unsubscribe n 1 := by
  induction run generalizing r given with
  | nil => exact nofun
  | cons e rest ih =>
    rw [endsOwn, Bool.and_eq_true] at hown
    have hfirst : ∀ n, e.2 ≠ .unsubscribe n 1 := fun n hq => by
      rw [hq] at hown
      exact hgiven (n, 1) (List.contains_iff_mem.mp hown.1) rfl
    refine List.forall_mem_cons.mpr ⟨hfirst, ih (h.carryOut hfirst) (fun p hp => ?_) hown.2⟩
    rcases List.mem_append.mp hp with hold | hnew
    · exact hgiven p hold
    · exact handedOut_ne_one h e.2 p hnew

/-! ### The course of every circuit -/

/-- The stored circuit of a breaker. One that is not made yet counts as new, and so does one that is
always closed. -/
def circuitAt (r : Registry listener) (n : Nat) : Circuit :=
  (r.breakers[n]?.map Breaker.stored).getD {}

theorem own_append (first second : RegistryHistory) (n : Nat) :
    RegistryHistory.own (first ++ second) n = first.own n ++ second.own n := List.filterMap_append

theorem own_changes (r : Registry listener) (now : Instant) (d : BreakerDeed listener) (n : Nat) :
    (r.changes now d).own n =
      if d.1 = n then (r.breakers[n]?.map (Breaker.changes (now, d.2))).getD [] else [] := by
  unfold RegistryHistory.own changes
  rw [List.filterMap_map]
  split
  · rename_i heq
    subst heq
    simp
  · rename_i hne
    simp [hne]

theorem passage_perform (r : Registry listener) (now : Instant) (d : BreakerDeed listener)
    (n : Nat) : Passage (r.circuitAt n) ((r.changes now d).own n)
      ((r.perform now d).circuitAt n) := by
  have hat := r.alter_breakers d.1 (Breaker.perform now d.2) n
  rw [own_changes]
  unfold circuitAt perform
  rw [hat]
  by_cases hn : n = d.1
  · rw [if_pos hn, if_pos hn.symm]
    cases r.breakers[n]? with
    | none => exact Passage.of_same rfl rfl fun _ => rfl
    | some b =>
      cases b with
      | alwaysClosed name => exact Passage.of_same rfl rfl fun _ => rfl
      | circuit b => exact b.passage_perform (now, d.2)
  · rw [if_neg hn, if_neg (Ne.symm hn)]
    exact Passage.of_same rfl rfl fun _ => rfl

theorem passage_performAll (r : Registry listener) (now : Instant)
    (deeds : List (BreakerDeed listener)) (n : Nat) :
    Passage (r.circuitAt n) ((r.changesAll now deeds).own n)
      ((r.performAll now deeds).circuitAt n) := by
  induction deeds generalizing r with
  | nil => exact Passage.of_same rfl rfl fun _ => rfl
  | cons d rest ih =>
    rw [changesAll, own_append]
    exact (r.passage_perform now d n).trans (ih (r.perform now d))

theorem circuitAt_carryOut (r : Registry listener) (now : Instant) {q : RegistryRequest listener}
    (h : q.isForBreakers = false) (n : Nat) :
    (r.carryOut now q).registry.circuitAt n = r.circuitAt n := by
  unfold circuitAt
  rcases r.breakers_carryOut now h with heq | ⟨name, s, heq⟩
  · rw [heq]
  · rw [heq]
    rcases Nat.lt_trichotomy n r.breakers.length with hlt | rfl | hgt
    · rw [List.getElem?_append_left hlt]
    · rw [List.getElem?_concat_length, List.getElem?_length]
      exact Breaker.stored_newborn name s
    · have hlength : (r.breakers ++ [Breaker.newborn name s]).length ≤ n := by
        rw [List.length_append, List.length_singleton]
        exact hgt
      rw [List.getElem?_eq_none hlength, List.getElem?_eq_none (Nat.le_of_lt hgt)]

theorem deeds_eq_nil (r : Registry listener) {q : RegistryRequest listener}
    (h : q.isForBreakers = false) : r.deeds q = [] := by
  cases q <;> first | rfl | cases h

theorem passage_carryOut (r : Registry listener) (now : Instant) (q : RegistryRequest listener)
    (n : Nat) : Passage (r.circuitAt n) ((r.changesAll now (r.deeds q)).own n)
      ((r.carryOut now q).registry.circuitAt n) := by
  cases hq : q.isForBreakers with
  | true =>
    rw [carryOut_deeds r now hq]
    exact r.passage_performAll now (r.deeds q) n
  | false =>
    rw [deeds_eq_nil r hq, circuitAt_carryOut r now hq]
    exact Passage.of_same rfl rfl fun _ => rfl

/-- The changes of a breaker in a run lead from its stored circuit before to the one after. -/
theorem passage_of_run (r : Registry listener) (run : RegistryLog listener) (n : Nat) :
    Passage (r.circuitAt n) ((r.history run).own n) ((r.after run).circuitAt n) := by
  induction run generalizing r with
  | nil => exact Passage.of_same rfl rfl fun _ => rfl
  | cons e rest ih =>
    rw [history, own_append]
    exact (r.passage_carryOut e.1 e.2 n).trans (ih (r.carryOut e.1 e.2).registry)

/-- The change is one of a circuit breaker of the registry. -/
def Bears (r : Registry listener) (c : Nat × Instant × StateChange) : Prop :=
  ∃ b, r.breakers[c.1]? = some (.circuit b) ∧ c.2.2.circuit = b.name

variable {c : Nat × Instant × StateChange}

theorem Bears.perform (h : r.Bears c) (now : Instant) (d : BreakerDeed listener) :
    (r.perform now d).Bears c := by
  obtain ⟨b, hb, hname⟩ := h
  have hat := r.alter_breakers d.1 (Breaker.perform now d.2) c.1
  rw [hb] at hat
  split at hat
  · exact ⟨b.perform now d.2, hat, hname.trans (b.perform_fixed now d.2).1.symm⟩
  · exact ⟨b, hat, hname⟩

theorem Bears.performAll (h : r.Bears c) (now : Instant) (deeds : List (BreakerDeed listener)) :
    (r.performAll now deeds).Bears c :=
  performAll_keeps (P := (·.Bears c)) h fun _ h d _ => h.perform now d

theorem Bears.carryOut (h : r.Bears c) (now : Instant) (q : RegistryRequest listener) :
    (r.carryOut now q).registry.Bears c := by
  cases hq : q.isForBreakers with
  | true =>
    rw [carryOut_deeds r now hq]
    exact h.performAll now (r.deeds q)
  | false =>
    obtain ⟨b, hb, hname⟩ := h
    refine ⟨b, ?_, hname⟩
    rcases r.breakers_carryOut now hq with heq | ⟨name, s, heq⟩
    · rw [heq, hb]
    · rw [heq, List.getElem?_append_left (List.getElem?_eq_some_iff.mp hb).1, hb]

theorem Bears.after (h : r.Bears c) (run : RegistryLog listener) : (r.after run).Bears c :=
  after_keeps (P := (·.Bears c)) h fun _ h e _ => h.carryOut e.1 e.2

theorem bears_changes {d : BreakerDeed listener} (h : c ∈ r.changes now d) : r.Bears c := by
  obtain ⟨change, hchange, rfl⟩ := List.mem_map.mp h
  cases hb : r.breakers[d.1]? with
  | none =>
    rw [hb] at hchange
    cases hchange
  | some b =>
    rw [hb] at hchange
    cases b with
    | alwaysClosed name => cases hchange
    | circuit b => exact ⟨b, hb, (CircuitBreaker.mem_changes hchange).1⟩

theorem bears_changesAll {deeds : List (BreakerDeed listener)} (h : c ∈ r.changesAll now deeds) :
    (r.performAll now deeds).Bears c := by
  induction deeds generalizing r with
  | nil => cases h
  | cons d rest ih =>
    rcases List.mem_append.mp h with hfirst | hrest
    · exact ((bears_changes hfirst).perform now d).performAll now rest
    · exact ih hrest

theorem bears_history {run : RegistryLog listener} (h : c ∈ r.history run) :
    (r.after run).Bears c := by
  induction run generalizing r with
  | nil => cases h
  | cons e rest ih =>
    rcases List.mem_append.mp h with hfirst | hrest
    · cases hq : e.2.isForBreakers with
      | true =>
        have hbears := bears_changesAll hfirst
        rw [← carryOut_deeds r e.1 hq] at hbears
        exact hbears.after rest
      | false =>
        rw [deeds_eq_nil r hq] at hfirst
        cases hfirst
    · exact ih hrest

end Registry

end Delivery
