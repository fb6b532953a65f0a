import Delivery.Proofs.Registry.Frame
import Delivery.Proofs.Registry.Reach
import Mathlib.Logic.Relation

/-!
# Registries that are switched off

A breaker that is always closed stays so, whatever is done with its registry. Where the settings for
a name switch circuit breaking off, the name has such a breaker or is given one.
-/

namespace Delivery.Registry

variable {listener : Type} {r r' : Registry listener} {number : Nat} {name : String}

def ClosedAt (r : Registry listener) (number : Nat) : Prop :=
  ∃ label, r.breakers[number]? = some (.alwaysClosed label)

theorem ClosedAt.alter (h : r.ClosedAt number) (m : Nat)
    {f : Breaker (Audience listener) → Breaker (Audience listener)}
    (hf : ∀ label, f (.alwaysClosed label) = .alwaysClosed label) :
    (r.alter m f).ClosedAt number := by
  obtain ⟨label, hb⟩ := h
  refine ⟨label, ?_⟩
  rw [alter_breakers, hb]
  split
  · exact congrArg some (hf label)
  · rfl

theorem ClosedAt.alterAll (h : r.ClosedAt number) (numbers : List Nat)
    {f : Breaker (Audience listener) → Breaker (Audience listener)}
    (hf : ∀ label, f (.alwaysClosed label) = .alwaysClosed label) :
    (r.alterAll numbers f).ClosedAt number := by
  induction numbers generalizing r with
  | nil => exact h
  | cons m rest ih => exact ih (h.alter m hf)

theorem ClosedAt.step (h : r.ClosedAt number) (hs : Step r r') : r'.ClosedAt number := by
  cases hs with
  | got name explicit made hgot =>
    obtain ⟨key, -, hgot⟩ := bind_eq_ok_iff.mp hgot
    split at hgot
    · cases hgot
      exact h
    · obtain ⟨b, -, hgot⟩ := bind_eq_ok_iff.mp hgot
      cases hgot
      obtain ⟨label, hb⟩ := h
      exact ⟨label, by rw [List.getElem?_append_left (List.getElem?_eq_some_iff.mp hb).1, hb]⟩
  | removed name =>
    unfold Registry.remove
    split <;> exact h
  | served m now request =>
    rw [serve_registry]
    exact h.alter m fun _ => rfl
  | subscribed m l =>
    rw [subscribe_registry]
    exact h.alter m fun _ => rfl
  | unsubscribed m id =>
    rw [unsubscribe_registry]
    exact h.alter m fun _ => rfl
  | reset now =>
    rw [resetAll_registry]
    exact h.alterAll _ fun _ => rfl
  | observed now =>
    rw [states_registry]
    exact h.alterAll _ fun _ => rfl
  | subscribedAll l => exact h
  | unsubscribedAll id => exact h

theorem ClosedAt.steps (h : r.ClosedAt number) (hs : Relation.ReflTransGen Step r r') :
    r'.ClosedAt number := by
  induction hs with
  | refl => exact h
  | tail _ hs ih => exact ih.step hs

theorem ClosedAt.admitted (h : r.ClosedAt number) (now : Instant) :
    (r.serve number now .acquire).answer = .admitted := by
  obtain ⟨label, hb⟩ := h
  rw [serve_answer, hb]
  rfl

/-! ### Settings -/

/-- The settings for a name are switched off, and so is its breaker if it has one. -/
def SwitchedOff (r : Registry listener) (name : String) : Prop :=
  ∀ key, normaliseName name = .ok key → (r.settings.resolve key).enabled = false ∧
    ∀ number, r.registered.lookup key = some number → r.ClosedAt number

theorem SwitchedOff.getOrCreate_eq (h : r.SwitchedOff name) :
    (trimName name = "" ∧ r.getOrCreate name none = .error .blankName) ∨
      (trimName name ≠ "" ∧ ∃ number r', r.getOrCreate name none = .ok (number, r') ∧
        r'.ClosedAt number) := by
  rcases normaliseName_eq name with ⟨hblank, hn⟩ | ⟨hblank, key, hn⟩
  · refine Or.inl ⟨hblank, ?_⟩
    rw [getOrCreate, hn]
    rfl
  · obtain ⟨hoff, hclosed⟩ := h key hn
    refine Or.inr ⟨hblank, ?_⟩
    simp only [getOrCreate, hn, bind_eq_ok_iff]
    cases hl : r.registered.lookup key with
    | some number => exact ⟨number, r, ⟨key, rfl, by rw [hl]; rfl⟩, hclosed number hl⟩
    | none =>
      have hbuild : build (trimName name) (r.settings.resolve key) =
          .ok (.alwaysClosed (trimName name) : Breaker (Audience listener)) := by
        rw [build, hoff]
        rfl
      refine ⟨r.breakers.length, { r with
        breakers := r.breakers ++ [.alwaysClosed (trimName name)]
        registered := insertKey key r.breakers.length r.registered }, ⟨key, rfl, ?_⟩,
        trimName name, List.getElem?_concat_length ..⟩
      rw [hl]
      exact bind_eq_ok_iff.mpr ⟨_, mapError_eq_ok_iff.mpr hbuild, rfl⟩

theorem switchedOff_of_create {settings : RegistrySettings} (h : create settings = .ok r)
    (hdefaults : settings.defaults.enabled = false)
    (hoverrides : ∀ o ∈ settings.overrides, o.2.enabled = false) (name : String) :
    r.SwitchedOff name := by
  obtain ⟨s, hs, rfl⟩ := create_eq_ok_iff.mp h
  obtain ⟨-, hsame, -⟩ := RegistrySettings.normalise_eq_ok_iff.mp hs
  refine fun key _ => ⟨?_, fun number hnumber => by cases hnumber⟩
  show (s.resolve key).enabled = false
  unfold RegistrySettings.resolve
  cases hl : s.overrides.lookup key with
  | none =>
    rw [Option.getD_none, hsame]
    exact hdefaults
  | some b =>
    obtain ⟨o, ho, heq, -⟩ := RegistrySettings.mem_of_normalise hs (mem_of_lookup hl)
    rw [Option.getD_some, show b = o.2 from heq]
    exact hoverrides o ho

end Delivery.Registry
