import Delivery.Proofs.Breaker.Moves
import Delivery.Proofs.Registry.Frame

/-!
# Sessions at a registry, and what a single transport should see of them

In a session breakers are asked for by name, held on to and used, in any order and for any number of
transports. A breaker is spoken of by its handle: the key of its transport, and how many breakers of
that key were made before it.

The docket of a key is what its transport should see. It lists breakers that stand alone, one for
each that was made for the key, with all that each was asked, and it reads those acts of a session
only that concern the key.
-/

namespace Delivery

structure BreakerHandle where
  key : String
  generation : Nat
  deriving DecidableEq, Repr

inductive RegistryAct (listener : Type) where
  | getOrCreate (name : String) (explicit : Option BreakerSettings)
  | get (name : String)
  | remove (name : String)
  | resetAll
  | states
  | ask (h : BreakerHandle) (request : BreakerRequest)
  | subscribe (h : BreakerHandle) (l : listener)
  | unsubscribe (h : BreakerHandle) (id : Nat)

abbrev RegistryRun (listener : Type) := List (Instant × RegistryAct listener)

inductive RegistryReply where
  | held (h : BreakerHandle)
  | refused (e : RegistryError)
  | found (h : Option BreakerHandle)
  | removed (found : Bool)
  | states (list : List (String × CircuitState))
  | answer (a : BreakerAnswer)
  | done
  deriving DecidableEq, Repr

/-! ### Sessions -/

/-- A registry, and the handles of its breakers in the order of their creation. -/
structure RegistrySession (listener : Type) where
  registry : Registry listener
  handles : List BreakerHandle := []

namespace RegistrySession

variable {listener : Type}

def made (σ : RegistrySession listener) (key : String) : Nat := σ.handles.countP (·.key == key)

def number (σ : RegistrySession listener) (h : BreakerHandle) : Nat := σ.handles.idxOf h

/-- Hands out the breaker of a number. One that has just been made is given its handle first. -/
def hold (σ : RegistrySession listener) (key : String) (number : Nat) (r : Registry listener) :
    RegistryReply × RegistrySession listener :=
  match σ.handles[number]? with
  | some h => (.held h, ⟨r, σ.handles⟩)
  | none => (.held ⟨key, σ.made key⟩, ⟨r, σ.handles ++ [⟨key, σ.made key⟩]⟩)

def perform (σ : RegistrySession listener) (now : Instant) :
    RegistryAct listener → RegistryReply × RegistrySession listener
  | .getOrCreate name explicit =>
    match normaliseName name, σ.registry.getOrCreate name explicit with
    | .ok key, .ok (number, r) => σ.hold key number r
    | .error e, _ | _, .error e => (.refused e, σ)
  | .get name => (.found ((σ.registry.get? name).bind (σ.handles[·]?)), σ)
  | .remove name =>
    (.removed (σ.registry.remove name).1, ⟨(σ.registry.remove name).2, σ.handles⟩)
  | .resetAll => (.done, ⟨(σ.registry.resetAll now).1, σ.handles⟩)
  | .states => (.states (σ.registry.states now).1, ⟨(σ.registry.states now).2.1, σ.handles⟩)
  | .ask h q =>
    (.answer (σ.registry.serve (σ.number h) now q).answer,
     ⟨(σ.registry.serve (σ.number h) now q).registry, σ.handles⟩)
  | .subscribe h l => (.done, ⟨(σ.registry.subscribe (σ.number h) l).2, σ.handles⟩)
  | .unsubscribe h id => (.done, ⟨(σ.registry.unsubscribe (σ.number h) id).2, σ.handles⟩)

def after (σ : RegistrySession listener) (run : RegistryRun listener) : RegistrySession listener :=
  run.foldl (fun σ e => (σ.perform e.1 e.2).2) σ

end RegistrySession

/-! ### What concerns a key -/

/-- The key under which a name is filed; none for a blank one. -/
def keyOf (name : String) : Option String :=
  match normaliseName name with
  | .ok key => some key
  | .error _ => none

theorem normaliseName_eq_ok_iff {name key : String} :
    normaliseName name = .ok key ↔ keyOf name = some key := by
  unfold keyOf
  cases normaliseName name <;> simp

/-- An act concerns a key if it is done under a name of that key, with one of its breakers, or with
all breakers of the registry. -/
def RegistryAct.concerns {listener : Type} (key : String) : RegistryAct listener → Bool
  | .getOrCreate name _ | .get name | .remove name => keyOf name == some key
  | .resetAll | .states => true
  | .ask h _ | .subscribe h _ | .unsubscribe h _ => h.key == key

/-- What of a reply is about a key. -/
def RegistryReply.under (key : String) : RegistryReply → RegistryReply
  | .states list => .states (list.filter (·.1 == key))
  | reply => reply

theorem RegistryReply.eq_of_under {key : String} {reply seen : RegistryReply}
    (h : reply.under key = seen) (hseen : ∀ list, seen ≠ .states list) : reply = seen := by
  cases reply with
  | states list => exact absurd h.symm (hseen _)
  | _ => exact h

/-- What an act asks of the breaker with a handle. -/
def RegistryAct.asked? {listener : Type} (h : BreakerHandle) (now : Instant) :
    RegistryAct listener → Option TimedRequest
  | .ask h' q => if h' = h then some (now, q) else none
  | _ => none

def askedOf {listener : Type} (h : BreakerHandle) (run : RegistryRun listener) :
    List TimedRequest :=
  run.filterMap fun e => e.2.asked? h e.1

theorem askedOf_cons {listener : Type} (h : BreakerHandle) (e : Instant × RegistryAct listener)
    (run : RegistryRun listener) :
    askedOf h (e :: run) = (e.2.asked? h e.1).toList ++ askedOf h run := by
  cases hq : e.2.asked? h e.1 with
  | none => simp [askedOf, hq]
  | some q => simp [askedOf, hq]

/-- The acts of a run that concern a key. -/
def concerning {listener : Type} (key : String) (run : RegistryRun listener) :
    RegistryRun listener :=
  run.filter fun e => e.2.concerns key

theorem concerning_cons {listener : Type} (key : String) (e : Instant × RegistryAct listener)
    (run : RegistryRun listener) : concerning key (e :: run) =
      if e.2.concerns key then e :: concerning key run else concerning key run := by
  simp only [concerning, List.filter_cons]

theorem concerning_concerning {listener : Type} (key : String) (run : RegistryRun listener) :
    concerning key (concerning key run) = concerning key run := by
  simp only [concerning, List.filter_filter, Bool.and_self]

theorem asked?_of_other {listener : Type} {key : String} {act : RegistryAct listener}
    (hc : act.concerns key = false) (g : Nat) (now : Instant) : act.asked? ⟨key, g⟩ now = none := by
  cases act with
  | ask h q =>
    refine if_neg ?_
    rintro rfl
    simp [RegistryAct.concerns] at hc
  | _ => rfl

/-- What is seen under a key of the replies to a run. -/
def RegistrySession.view {listener : Type} (key : String) (σ : RegistrySession listener) :
    RegistryRun listener → List RegistryReply
  | [] => []
  | e :: rest =>
    if e.2.concerns key then
      (σ.perform e.1 e.2).1.under key :: (σ.perform e.1 e.2).2.view key rest
    else (σ.perform e.1 e.2).2.view key rest

/-! ### Breakers that stand alone -/

/-- A breaker that no registry knows of and nobody listens to: always closed where its settings
switch circuit breaking off. -/
def Breaker.alone (name : String) (s : BreakerSettings) : Except SettingsError (Breaker Empty) := do
  if !s.enabled then return .alwaysClosed name
  return .circuit (← CircuitBreaker.create name s fun _ => true)

/-- A breaker as it was made, and all that it was asked since. -/
structure LoneBreaker where
  origin : Breaker Empty
  requests : List TimedRequest := []

namespace LoneBreaker

def breaker (b : LoneBreaker) : Breaker Empty :=
  b.requests.foldl (fun b q => (b.serve q.1 q.2).breaker) b.origin

def answer (b : LoneBreaker) (now : Instant) (q : BreakerRequest) : BreakerAnswer :=
  (b.breaker.serve now q).answer

def ask (b : LoneBreaker) (qs : List TimedRequest) : LoneBreaker :=
  { b with requests := b.requests ++ qs }

@[simp] theorem ask_nil (b : LoneBreaker) : b.ask [] = b := by simp [ask]

@[simp] theorem ask_ask (b : LoneBreaker) (first second : List TimedRequest) :
    (b.ask first).ask second = b.ask (first ++ second) := by simp [ask]

theorem breaker_ask (b : LoneBreaker) (now : Instant) (q : BreakerRequest) :
    (b.ask [(now, q)]).breaker = (b.breaker.serve now q).breaker := by
  simp [ask, breaker, List.foldl_append]

end LoneBreaker

/-! ### Dockets -/

/-- The breakers that were made for a key, and the generation that is registered. -/
structure Docket where
  breakers : List LoneBreaker := []
  current : Option Nat := none

namespace Docket

variable {listener : Type}

def ask (D : Docket) (generation : Nat) (q : TimedRequest) : Docket :=
  { D with breakers := D.breakers.modify generation (·.ask [q]) }

@[simp] theorem ask_length (D : Docket) (generation : Nat) (q : TimedRequest) :
    (D.ask generation q).breakers.length = D.breakers.length := List.length_modify ..

theorem ask_breakers (D : Docket) (generation : Nat) (q : TimedRequest) (g : Nat) :
    (D.ask generation q).breakers[g]? =
      if g = generation then D.breakers[g]?.map (·.ask [q]) else D.breakers[g]? := by
  simp only [ask, List.getElem?_modify, Option.map_eq_map]
  by_cases h : g = generation
  · subst h
    simp
  · simp [h, Ne.symm h]

/-- The breaker that a key gets when it has none. -/
def newcomer (settings : RegistrySettings) (key name : String) (explicit : Option BreakerSettings) :
    Except SettingsError (Breaker Empty) :=
  Breaker.alone (trimName name) (explicit.getD (settings.resolve key))

/-- The docket after an act that concerns its key. -/
def note (settings : RegistrySettings) (key : String) (D : Docket) (now : Instant) :
    RegistryAct listener → Docket
  | .getOrCreate name explicit =>
    match D.current, newcomer settings key name explicit with
    | none, .ok b => ⟨D.breakers ++ [⟨b, []⟩], some D.breakers.length⟩
    | _, _ => D
  | .remove _ => { D with current := none }
  | .resetAll =>
    match D.current with
    | some g => D.ask g (now, .reset)
    | none => D
  | .ask h q => D.ask h.generation (now, q)
  | .get _ | .states | .subscribe .. | .unsubscribe .. => D

/-- What is said under the key in reply to such an act. -/
def reply (settings : RegistrySettings) (key : String) (D : Docket) (now : Instant) :
    RegistryAct listener → RegistryReply
  | .getOrCreate name explicit =>
    match D.current, newcomer settings key name explicit with
    | some g, _ => .held ⟨key, g⟩
    | none, .ok _ => .held ⟨key, D.breakers.length⟩
    | none, .error e => .refused (.settings e)
  | .get _ => .found (D.current.map (⟨key, ·⟩))
  | .remove _ => .removed D.current.isSome
  | .states =>
    .states ((D.current.bind (D.breakers[·]?)).toList.map fun b =>
      (key, (b.answer now .observe).state))
  | .ask h q => .answer ((D.breakers[h.generation]?.map (·.answer now q)).getD .noted)
  | .resetAll | .subscribe .. | .unsubscribe .. => .done

theorem note_resetAll (settings : RegistrySettings) (key : String) (D : Docket) (now : Instant) :
    let D' := D.note settings key now (.resetAll : RegistryAct listener)
    D'.current = D.current ∧ D'.breakers.length = D.breakers.length ∧
      ∀ g, D'.breakers[g]? =
        if D.current = some g then D.breakers[g]?.map (·.ask [(now, .reset)])
        else D.breakers[g]? := by
  obtain ⟨breakers, current⟩ := D
  cases current with
  | none => exact ⟨rfl, rfl, fun g => rfl⟩
  | some c =>
    refine ⟨rfl, ask_length .., fun g => ?_⟩
    simp only [note, ask_breakers, Option.some.injEq, eq_comm]

def after (settings : RegistrySettings) (key : String) (D : Docket) (run : RegistryRun listener) :
    Docket :=
  run.foldl (fun D e => D.note settings key e.1 e.2) D

def replies (settings : RegistrySettings) (key : String) (D : Docket) :
    RegistryRun listener → List RegistryReply
  | [] => []
  | e :: rest =>
    D.reply settings key e.1 e.2 :: (D.note settings key e.1 e.2).replies settings key rest

@[simp] theorem after_cons (settings : RegistrySettings) (key : String) (D : Docket)
    (e : Instant × RegistryAct listener) (run : RegistryRun listener) :
    D.after settings key (e :: run) = (D.note settings key e.1 e.2).after settings key run := rfl

@[simp] theorem after_append (settings : RegistrySettings) (key : String) (D : Docket)
    (first second : RegistryRun listener) :
    D.after settings key (first ++ second) =
      (D.after settings key first).after settings key second := by
  simp only [after, List.foldl_append]

/-! ### Breakers that were taken out -/

/-- Whatever is registered, if anything, was made after the first breakers of the docket. -/
def Superseded (D : Docket) (first : Nat) : Prop :=
  first ≤ D.breakers.length ∧ ∀ g, D.current = some g → first ≤ g

variable {key : String} {D : Docket} {first : Nat}

theorem Superseded.note (settings : RegistrySettings) (h : D.Superseded first) (now : Instant)
    {act : RegistryAct listener} (hc : act.concerns key = true) :
    (D.note settings key now act).Superseded first ∧
      ∀ g < first, (D.note settings key now act).breakers[g]? =
        D.breakers[g]?.map (·.ask (act.asked? ⟨key, g⟩ now).toList) := by
  obtain ⟨hle, hcurrent⟩ := h
  have hsame : D.Superseded first ∧ ∀ g < first,
      D.breakers[g]? = D.breakers[g]?.map (·.ask []) := ⟨⟨hle, hcurrent⟩, by simp⟩
  cases act with
  | getOrCreate name explicit =>
    simp only [Docket.note]
    split
    · refine ⟨⟨?_, ?_⟩, fun g hg => ?_⟩
      · simp only [List.length_append]
        omega
      · rintro g ⟨⟩
        exact hle
      · rw [List.getElem?_append_left (Nat.lt_of_lt_of_le hg hle)]
        exact hsame.2 g hg
    · exact hsame
  | remove name => exact ⟨⟨hle, nofun⟩, hsame.2⟩
  | resetAll =>
    obtain ⟨hcurrent', hlength, hbreakers⟩ := @note_resetAll listener settings key D now
    refine ⟨⟨hlength ▸ hle, fun g hg => hcurrent g (hcurrent' ▸ hg)⟩, fun g hg => ?_⟩
    rw [hbreakers, if_neg fun hg' => Nat.not_lt.mpr (hcurrent g hg') hg]
    exact hsame.2 g hg
  | ask handle q =>
    obtain ⟨k, generation⟩ := handle
    obtain rfl : k = key := beq_iff_eq.mp hc
    refine ⟨⟨(ask_length ..).symm ▸ hle, hcurrent⟩, fun g hg => ?_⟩
    simp only [Docket.note, ask_breakers, RegistryAct.asked?, BreakerHandle.mk.injEq, true_and,
      eq_comm (a := g)]
    split
    · rfl
    · exact hsame.2 g hg
  | get name => exact hsame
  | states => exact hsame
  | subscribe h l => exact hsame
  | unsubscribe h id => exact hsame

/-- A breaker that is not registered, and never will be, hears only what is asked of its handle. -/
theorem Superseded.after (settings : RegistrySettings) (h : D.Superseded first)
    (run : RegistryRun listener) :
    (D.after settings key (concerning key run)).Superseded first ∧
      ∀ g < first, (D.after settings key (concerning key run)).breakers[g]? =
        D.breakers[g]?.map (·.ask (askedOf ⟨key, g⟩ run)) := by
  induction run generalizing D with
  | nil => exact ⟨h, fun g _ => by simp [Docket.after, concerning, askedOf]⟩
  | cons e rest ih =>
    rw [concerning_cons]
    by_cases hc : e.2.concerns key = true
    · obtain ⟨hnext, hbreakers⟩ := h.note settings e.1 hc
      obtain ⟨hlast, hafter⟩ := ih hnext
      rw [if_pos hc]
      refine ⟨hlast, fun g hg => (hafter g hg).trans ?_⟩
      simp only [hbreakers g hg, Option.map_map, askedOf_cons, Function.comp_def,
        LoneBreaker.ask_ask]
    · obtain ⟨hlast, hafter⟩ := ih h
      rw [if_neg hc]
      refine ⟨hlast, fun g hg => (hafter g hg).trans ?_⟩
      rw [askedOf_cons, asked?_of_other (by simpa using hc), Option.toList_none, List.nil_append]

/-- A key that nobody asks for gets no breaker. -/
theorem after_current_eq_none (settings : RegistrySettings) {run : RegistryRun listener}
    (h : D.current = none) (hnone : ∀ e ∈ run, ∀ name explicit,
      e.2 = .getOrCreate name explicit → keyOf name ≠ some key) :
    (D.after settings key (concerning key run)).current = none := by
  induction run generalizing D with
  | nil => exact h
  | cons e rest ih =>
    have hrest := fun e' (he' : e' ∈ rest) => hnone e' (List.mem_cons_of_mem _ he')
    rw [concerning_cons]
    by_cases hc : e.2.concerns key = true
    · rw [if_pos hc, after_cons]
      refine ih ?_ hrest
      obtain ⟨t, act⟩ := e
      cases act with
      | getOrCreate name explicit =>
        exact absurd (beq_iff_eq.mp hc) (hnone _ List.mem_cons_self name explicit rfl)
      | remove name => rfl
      | resetAll => exact (@note_resetAll listener settings key D t).1.trans h
      | get name => exact h
      | states => exact h
      | ask handle q => exact h
      | subscribe handle l => exact h
      | unsubscribe handle id => exact h
    · rw [if_neg hc]
      exact ih h hrest

end Docket

end Delivery
