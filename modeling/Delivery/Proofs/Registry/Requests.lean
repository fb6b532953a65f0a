import Delivery.Proofs.Breaker.History
import Delivery.Proofs.Registry.Docket
import Delivery.Proofs.Registry.Reach

/-!
# Requests to a registry and to the breakers it handed out

A request asks the registry for something, by name or for all breakers, or it goes to a breaker that
was handed out at some time, registered or not; such a breaker is spoken of by its number in the
order of creation. Requests of the second kind, and those for all breakers, come down to acts on
single breakers, one after the other (`Registry.carryOut_deeds`).
-/

namespace Delivery

/-- What is wrong with settings. The settings of a breaker that is always closed are not looked
at. -/
def BreakerSettings.fault? (s : BreakerSettings) : Option SettingsError :=
  if s.enabled then
    match s.validate with
    | .ok () => none
    | .error e => some e
  else none

/-! ### Breakers of either kind -/

namespace Breaker

variable {listener : Type}

def perform (now : Instant) (act : BreakerAct listener) : Breaker listener → Breaker listener
  | .circuit b => .circuit (b.perform now act)
  | .alwaysClosed name => .alwaysClosed name

/-- The settings of a circuit breaker; one that is always closed has none. -/
def settings? : Breaker listener → Option BreakerSettings
  | .circuit b => some b.settings
  | .alwaysClosed _ => none

theorem perform_ask (b : Breaker listener) (now : Instant) (q : BreakerRequest) :
    b.perform now (.ask q) = (b.serve now q).breaker := by cases b <;> rfl

theorem perform_subscribe (b : Breaker listener) (now : Instant) (l : listener) :
    b.perform now (.subscribe l) = (b.subscribe l).2 := by cases b <;> rfl

theorem perform_unsubscribe (b : Breaker listener) (now : Instant) (id : Nat) :
    b.perform now (.unsubscribe id) = (b.unsubscribe id).2 := by cases b <;> rfl

/-- The breaker that a registry makes from settings without a fault. -/
def newborn (name : String) (s : BreakerSettings) : Breaker (Audience listener) :=
  if s.enabled then
    .circuit { name, settings := s, listeners := [(1, .registry)], nextSubscription := 2 }
  else .alwaysClosed name

theorem newborn_name (name : String) (s : BreakerSettings) :
    (newborn name s : Breaker (Audience listener)).name = name := by
  unfold newborn
  split <;> rfl

theorem newborn_settings? (name : String) (s : BreakerSettings) :
    (newborn name s : Breaker (Audience listener)).settings? =
      if s.enabled then some s else none := by
  unfold newborn
  split <;> rfl

theorem perform_name (b : Breaker listener) (now : Instant) (act : BreakerAct listener) :
    (b.perform now act).name = b.name := by
  cases b with
  | circuit b => exact (b.perform_fixed now act).1
  | alwaysClosed name => rfl

theorem perform_settings? (b : Breaker listener) (now : Instant) (act : BreakerAct listener) :
    (b.perform now act).settings? = b.settings? := by
  cases b with
  | circuit b => exact congrArg some (b.perform_fixed now act).2.1
  | alwaysClosed name => rfl

end Breaker

/-! ### Requests -/

inductive RegistryRequest (listener : Type) where
  | getOrCreate (name : String) (explicit : Option BreakerSettings)
  | get (name : String)
  | remove (name : String)
  | names
  | size
  | states
  | resetAll
  | subscribeAll (l : listener)
  | unsubscribeAll (id : Nat)
  | serve (number : Nat) (q : BreakerRequest)
  | subscribe (number : Nat) (l : listener)
  | unsubscribe (number id : Nat)
  deriving DecidableEq, Repr

inductive RegistryAnswer where
  | held (number : Nat)
  | refused (e : RegistryError)
  | found (number : Option Nat)
  | removed (found : Bool)
  | names (list : List String)
  | size (n : Nat)
  | states (list : List (String × CircuitState))
  | answer (a : BreakerAnswer)
  | subscribed (id : Nat)
  | unsubscribed (found : Bool)
  | done
  deriving DecidableEq, Repr

/-- A request that only changes breakers: one breaker of a number, or all that are registered. -/
def RegistryRequest.isForBreakers {listener : Type} : RegistryRequest listener → Bool
  | .states | .resetAll | .serve .. | .subscribe .. | .unsubscribe .. => true
  | _ => false

structure RegistryOutcome (listener : Type) where
  answer : RegistryAnswer
  registry : Registry listener
  notices : List (Notice listener) := []

abbrev RegistryLog (listener : Type) := List (Instant × RegistryRequest listener)

/-- An act on the breaker of a number. -/
abbrev BreakerDeed (listener : Type) := Nat × BreakerAct (Audience listener)

namespace Registry

variable {listener : Type}

def carryOut (r : Registry listener) (now : Instant) :
    RegistryRequest listener → RegistryOutcome listener
  | .getOrCreate name explicit =>
    match r.getOrCreate name explicit with
    | .ok (number, r') => ⟨.held number, r', []⟩
    | .error e => ⟨.refused e, r, []⟩
  | .get name => ⟨.found (r.get? name), r, []⟩
  | .remove name => ⟨.removed (r.remove name).1, (r.remove name).2, []⟩
  | .names => ⟨.names r.names, r, []⟩
  | .size => ⟨.size r.size, r, []⟩
  | .states => ⟨.states (r.states now).1, (r.states now).2.1, (r.states now).2.2⟩
  | .resetAll => ⟨.done, (r.resetAll now).1, (r.resetAll now).2⟩
  | .subscribeAll l => ⟨.subscribed (r.subscribeAll l).1, (r.subscribeAll l).2, []⟩
  | .unsubscribeAll id => ⟨.unsubscribed (r.unsubscribeAll id).1, (r.unsubscribeAll id).2, []⟩
  | .serve number q =>
    ⟨.answer (r.serve number now q).answer, (r.serve number now q).registry,
     (r.serve number now q).notices⟩
  | .subscribe number l => ⟨.subscribed (r.subscribe number l).1, (r.subscribe number l).2, []⟩
  | .unsubscribe number id =>
    ⟨.unsubscribed (r.unsubscribe number id).1, (r.unsubscribe number id).2, []⟩

/-- The registry after a run. -/
def after (r : Registry listener) (run : RegistryLog listener) : Registry listener :=
  run.foldl (fun r e => (r.carryOut e.1 e.2).registry) r

@[simp] theorem after_nil (r : Registry listener) : r.after [] = r := rfl

@[simp] theorem after_cons (r : Registry listener) (e : Instant × RegistryRequest listener)
    (run : RegistryLog listener) :
    r.after (e :: run) = (r.carryOut e.1 e.2).registry.after run := rfl

@[simp] theorem after_append (r : Registry listener) (first second : RegistryLog listener) :
    r.after (first ++ second) = (r.after first).after second := by
  simp only [after, List.foldl_append]

/-- What every request of a run keeps is kept by the run. -/
theorem after_keeps {P : Registry listener → Prop} {r : Registry listener}
    {run : RegistryLog listener} (h : P r)
    (hrequest : ∀ r, P r → ∀ e ∈ run, P (r.carryOut e.1 e.2).registry) : P (r.after run) :=
  List.foldlRecOn run _ h hrequest

/-! ### Asking by name -/

theorem build_eq (name : String) (s : BreakerSettings) :
    (build name s : Except _ (Breaker (Audience listener))) =
      match s.fault? with
      | none => .ok (Breaker.newborn name s)
      | some e => .error e := by
  unfold build BreakerSettings.fault? Breaker.newborn
  cases s.enabled with
  | false => rfl
  | true =>
    rw [CircuitBreaker.create]
    cases s.validate <;> rfl

/-- What comes of asking for a breaker by name. -/
inductive Got (r : Registry listener) (name : String) (explicit : Option BreakerSettings) :
    RegistryAnswer → Registry listener → Prop where
  | blank (hk : keyOf name = none) : Got r name explicit (.refused .blankName) r
  | known (key : String) (n : Nat) (hk : keyOf name = some key)
      (hl : r.registered.lookup key = some n) : Got r name explicit (.held n) r
  | unusable (key : String) (e : SettingsError) (hk : keyOf name = some key)
      (hl : r.registered.lookup key = none)
      (hfault : (explicit.getD (r.settings.resolve key)).fault? = some e) :
      Got r name explicit (.refused (.settings e)) r
  | made (key : String) (hk : keyOf name = some key) (hl : r.registered.lookup key = none)
      (hfault : (explicit.getD (r.settings.resolve key)).fault? = none) :
      Got r name explicit (.held r.breakers.length)
        (r.enter key
          (Breaker.newborn (trimName name) (explicit.getD (r.settings.resolve key))))

theorem normaliseName_of_keyOf_eq_none {name : String} (h : keyOf name = none) :
    normaliseName name = .error .blankName := by
  rcases normaliseName_eq name with ⟨-, hblank⟩ | ⟨-, key, hkey⟩
  · exact hblank
  · rw [normaliseName_eq_ok_iff.mp hkey] at h
    cases h

theorem getOrCreate_blank {r : Registry listener} {name : String} (hk : keyOf name = none)
    (explicit : Option BreakerSettings) : r.getOrCreate name explicit = .error .blankName := by
  rw [getOrCreate, normaliseName_of_keyOf_eq_none hk]
  rfl

section Free

variable {r : Registry listener} {name key : String} {explicit : Option BreakerSettings}

theorem getOrCreate_known {n : Nat} (hk : keyOf name = some key)
    (hl : r.registered.lookup key = some n) (explicit : Option BreakerSettings) :
    r.getOrCreate name explicit = .ok (n, r) :=
  getOrCreate_of_registered (normaliseName_eq_ok_iff.mpr hk) hl

theorem getOrCreate_unusable {e : SettingsError} (hk : keyOf name = some key)
    (hl : r.registered.lookup key = none)
    (hfault : (explicit.getD (r.settings.resolve key)).fault? = some e) :
    r.getOrCreate name explicit = .error (.settings e) :=
  getOrCreate_of_refused (normaliseName_eq_ok_iff.mpr hk) hl (by rw [build_eq, hfault])

theorem getOrCreate_made (hk : keyOf name = some key) (hl : r.registered.lookup key = none)
    (hfault : (explicit.getD (r.settings.resolve key)).fault? = none) :
    r.getOrCreate name explicit = .ok (r.breakers.length, r.enter key
      (Breaker.newborn (trimName name) (explicit.getD (r.settings.resolve key)))) :=
  getOrCreate_of_built (normaliseName_eq_ok_iff.mpr hk) hl (by rw [build_eq, hfault])

end Free

theorem got (r : Registry listener) (name : String) (explicit : Option BreakerSettings)
    (now : Instant) : Got r name explicit (r.carryOut now (.getOrCreate name explicit)).answer
      (r.carryOut now (.getOrCreate name explicit)).registry := by
  cases hk : keyOf name with
  | none =>
    simp only [carryOut, getOrCreate_blank hk]
    exact .blank hk
  | some key =>
    cases hl : r.registered.lookup key with
    | some n =>
      simp only [carryOut, getOrCreate_known hk hl]
      exact .known key n hk hl
    | none =>
      cases hfault : (explicit.getD (r.settings.resolve key)).fault? with
      | some e =>
        simp only [carryOut, getOrCreate_unusable hk hl hfault]
        exact .unusable key e hk hl hfault
      | none =>
        simp only [carryOut, getOrCreate_made hk hl hfault]
        exact .made key hk hl hfault

/-- The registry without what was registered under a key. -/
def withdraw (r : Registry listener) (key : String) : Registry listener :=
  { r with registered := r.registered.filter (·.1 != key) }

theorem remove_cases (r : Registry listener) (name : String) :
    (keyOf name = none ∧ r.remove name = (false, r)) ∨
      ∃ key, keyOf name = some key ∧
        r.remove name = ((r.registered.lookup key).isSome, r.withdraw key) := by
  cases hk : keyOf name with
  | none => exact Or.inl ⟨rfl, remove_of_error (normaliseName_of_keyOf_eq_none hk)⟩
  | some key =>
    refine Or.inr ⟨key, rfl, ?_⟩
    rw [remove_of_ok (normaliseName_eq_ok_iff.mpr hk), any_key_eq_lookup, withdraw]

theorem get?_eq (r : Registry listener) (name : String) :
    r.get? name = (keyOf name).bind fun key => r.registered.lookup key := by
  unfold get? keyOf
  cases normaliseName name <;> rfl

/-- What becomes of a registry by a request that is not for breakers. -/
inductive Filed (r : Registry listener) : RegistryRequest listener → Registry listener → Prop where
  | same (q : RegistryRequest listener) (hjoin : ∀ l, q ≠ .subscribeAll l)
      (hleave : ∀ id, q ≠ .unsubscribeAll id) : Filed r q r
  | entered (name key label : String) (explicit : Option BreakerSettings) (s : BreakerSettings) :
      Filed r (.getOrCreate name explicit) (r.enter key (Breaker.newborn label s))
  | withdrawn (name key : String) : Filed r (.remove name) (r.withdraw key)
  | joined (l : listener) : Filed r (.subscribeAll l) (r.subscribeAll l).2
  | left (id : Nat) : Filed r (.unsubscribeAll id) (r.unsubscribeAll id).2

theorem filed (r : Registry listener) (now : Instant) {q : RegistryRequest listener}
    (h : q.isForBreakers = false) : Filed r q (r.carryOut now q).registry := by
  cases q with
  | getOrCreate name explicit =>
    have hgot := r.got name explicit now
    generalize (r.carryOut now (.getOrCreate name explicit)).answer = answer,
      (r.carryOut now (.getOrCreate name explicit)).registry = r' at hgot
    cases hgot with
    | made key hk hl hfault => exact .entered name key _ explicit _
    | _ => exact .same _ nofun nofun
  | remove name =>
    show Filed r (.remove name) (r.remove name).2
    rcases r.remove_cases name with ⟨-, heq⟩ | ⟨key, -, heq⟩
    · rw [heq]
      exact .same _ nofun nofun
    · rw [heq]
      exact .withdrawn name key
  | subscribeAll l => exact .joined l
  | unsubscribeAll id => exact .left id
  | get name => exact .same _ nofun nofun
  | names => exact .same _ nofun nofun
  | size => exact .same _ nofun nofun
  | _ => cases h

/-! ### Acts on single breakers -/

def perform (r : Registry listener) (now : Instant) (d : BreakerDeed listener) : Registry listener :=
  r.alter d.1 (Breaker.perform now d.2)

def performAll (r : Registry listener) (now : Instant) (deeds : List (BreakerDeed listener)) :
    Registry listener :=
  deeds.foldl (fun r d => r.perform now d) r

theorem performAll_keeps {P : Registry listener → Prop} {r : Registry listener} {now : Instant}
    {deeds : List (BreakerDeed listener)} (h : P r)
    (hperform : ∀ r, P r → ∀ d ∈ deeds, P (r.perform now d)) : P (r.performAll now deeds) :=
  List.foldlRecOn deeds _ h hperform

/-- The acts that a request comes down to; none for a request that is about names or about the
listeners of the registry. -/
def deeds (r : Registry listener) : RegistryRequest listener → List (BreakerDeed listener)
  | .states => r.registered.map fun e => (e.2, .ask .observe)
  | .resetAll => r.registered.map fun e => (e.2, .ask .reset)
  | .serve number q => [(number, .ask q)]
  | .subscribe number l => [(number, .subscribe (.only l))]
  | .unsubscribe number id => [(number, .unsubscribe id)]
  | _ => []

theorem serveAll_performAll (now : Instant) (q : BreakerRequest)
    (registered : List (String × Nat)) (r : Registry listener) :
    (serveAll now q registered r).2.1 =
      r.performAll now (registered.map fun e => (e.2, .ask q)) := by
  have hserve : (fun b : Breaker (Audience listener) => (b.serve now q).breaker) =
      Breaker.perform now (.ask q) := funext fun b => (b.perform_ask now q).symm
  rw [serveAll_registry, hserve, alterAll, performAll, List.foldl_map, List.foldl_map]
  rfl

theorem carryOut_deeds (r : Registry listener) (now : Instant) {q : RegistryRequest listener}
    (h : q.isForBreakers = true) :
    (r.carryOut now q).registry = r.performAll now (r.deeds q) := by
  cases q with
  | states => exact serveAll_performAll now .observe r.registered r
  | resetAll => exact serveAll_performAll now .reset r.registered r
  | serve number q =>
    have hserve : (fun b : Breaker (Audience listener) => (b.serve now q).breaker) =
        Breaker.perform now (.ask q) := funext fun b => (b.perform_ask now q).symm
    exact (r.serve_registry number now q).trans (congrArg (r.alter number) hserve)
  | subscribe number l =>
    have hsubscribe : (fun b : Breaker (Audience listener) => (b.subscribe (.only l)).2) =
        Breaker.perform now (.subscribe (.only l)) :=
      funext fun b => (b.perform_subscribe now _).symm
    exact (r.subscribe_registry number l).trans (congrArg (r.alter number) hsubscribe)
  | unsubscribe number id =>
    have hunsubscribe : (fun b : Breaker (Audience listener) => (b.unsubscribe id).2) =
        Breaker.perform now (.unsubscribe id) :=
      funext fun b => (b.perform_unsubscribe now id).symm
    exact (r.unsubscribe_registry number id).trans (congrArg (r.alter number) hunsubscribe)
  | _ => cases h

end Registry

end Delivery
