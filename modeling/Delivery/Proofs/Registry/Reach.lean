import Delivery.Registry

/-!
# What becomes of a registry

A registry is created with valid settings and then asked, in any order and at any times, for all it
can be asked. Its settings stay what they were, so a breaker that is asked for without settings of
its own can always be had, unless its name is blank.
-/

namespace Delivery

theorem bind_eq_ok_iff {ε α β : Type} {x : Except ε α} {f : α → Except ε β} {b : β} :
    (x >>= f) = .ok b ↔ ∃ a, x = .ok a ∧ f a = .ok b := by
  cases x with
  | error e =>
    constructor
    · intro h
      cases h
    · rintro ⟨_, h, -⟩
      cases h
  | ok a =>
    constructor
    · intro h
      exact ⟨a, rfl, h⟩
    · rintro ⟨_, ha, h⟩
      cases ha
      exact h

theorem mapError_eq_ok_iff {ε ε' α : Type} {x : Except ε α} {f : ε → ε'} {a : α} :
    x.mapError f = .ok a ↔ x = .ok a := by
  cases x with
  | error e =>
    constructor
    · intro h
      cases h
    · intro h
      cases h
  | ok b =>
    constructor
    · intro h
      cases h
      rfl
    · intro h
      cases h
      rfl

/-! ### Settings -/

namespace RegistrySettings

def Valid (s : RegistrySettings) : Prop :=
  s.defaults.validate = .ok () ∧ ∀ o ∈ s.overrides, o.2.validate = .ok ()

theorem mem_setOverride {overrides : List (String × BreakerSettings)} {name : String}
    {s : BreakerSettings} {o : String × BreakerSettings} (h : o ∈ setOverride overrides name s) :
    o ∈ overrides ∨ o = (name, s) := by
  unfold setOverride at h
  split at h
  · obtain ⟨o', ho', heq⟩ := List.mem_map.mp h
    split at heq
    · exact Or.inr heq.symm
    · exact Or.inl (heq ▸ ho')
  · simpa using h

theorem Valid.resolve {s : RegistrySettings} (h : s.Valid) (key : String) :
    (s.resolve key).validate = .ok () := by
  unfold RegistrySettings.resolve
  cases hl : s.overrides.lookup key with
  | none => exact h.1
  | some b =>
    obtain ⟨l₁, l₂, heq, -⟩ := List.lookup_eq_some_iff.mp hl
    exact h.2 (key, b) (by simp [heq])

/-- Files one more override under the key of its name. -/
def takeIn (done : List (String × BreakerSettings)) (o : String × BreakerSettings) :
    Except RegistryError (List (String × BreakerSettings)) := do
  o.2.validate.mapError .settings
  return setOverride done (← normaliseName o.1) o.2

theorem takeIn_eq_ok_iff {done next : List (String × BreakerSettings)}
    {o : String × BreakerSettings} : takeIn done o = .ok next ↔
      o.2.validate = .ok () ∧ ∃ key, normaliseName o.1 = .ok key ∧
        next = setOverride done key o.2 := by
  simp only [takeIn, bind_eq_ok_iff, mapError_eq_ok_iff]
  constructor
  · rintro ⟨_, hvalid, key, hkey, hset⟩
    cases hset
    exact ⟨hvalid, key, hkey, rfl⟩
  · rintro ⟨hvalid, key, hkey, rfl⟩
    exact ⟨(), hvalid, key, hkey, rfl⟩

theorem normalise_eq_ok_iff {s s' : RegistrySettings} : s.normalise = .ok s' ↔
    s.defaults.validate = .ok () ∧ s'.defaults = s.defaults ∧
      s.overrides.foldlM takeIn [] = .ok s'.overrides := by
  constructor
  · intro h
    obtain ⟨_, hdefaults, h⟩ := bind_eq_ok_iff.mp h
    obtain ⟨overrides, hover, h⟩ := bind_eq_ok_iff.mp h
    cases h
    exact ⟨mapError_eq_ok_iff.mp hdefaults, rfl, hover⟩
  · rintro ⟨hdefaults, hsame, hover⟩
    refine bind_eq_ok_iff.mpr ⟨(), mapError_eq_ok_iff.mpr hdefaults, bind_eq_ok_iff.mpr
      ⟨s'.overrides, hover, ?_⟩⟩
    rw [← hsame]
    rfl

/-- What overrides are filed as has settings of theirs, and these are valid. -/
theorem mem_of_takeIn {overrides done last : List (String × BreakerSettings)}
    (h : overrides.foldlM takeIn done = .ok last) {o' : String × BreakerSettings} (ho' : o' ∈ last) :
    o' ∈ done ∨ ∃ o ∈ overrides, o'.2 = o.2 ∧ o.2.validate = .ok () := by
  induction overrides generalizing done with
  | nil =>
    cases h
    exact Or.inl ho'
  | cons o rest ih =>
    obtain ⟨next, hnext, h⟩ := bind_eq_ok_iff.mp (List.foldlM_cons.symm.trans h)
    obtain ⟨hvalid, key, -, rfl⟩ := takeIn_eq_ok_iff.mp hnext
    rcases ih h with hdone | ⟨o₁, ho₁, hfrom⟩
    · rcases mem_setOverride hdone with hold | rfl
      · exact Or.inl hold
      · exact Or.inr ⟨o, List.mem_cons_self, rfl, hvalid⟩
    · exact Or.inr ⟨o₁, List.mem_cons_of_mem o ho₁, hfrom⟩

theorem mem_of_normalise {s s' : RegistrySettings} (h : s.normalise = .ok s')
    {o' : String × BreakerSettings} (ho' : o' ∈ s'.overrides) :
    ∃ o ∈ s.overrides, o'.2 = o.2 ∧ o.2.validate = .ok () :=
  (mem_of_takeIn (normalise_eq_ok_iff.mp h).2.2 ho').resolve_left List.not_mem_nil

theorem valid_of_normalise {s s' : RegistrySettings} (h : s.normalise = .ok s') : s'.Valid := by
  obtain ⟨hdefaults, hsame, -⟩ := normalise_eq_ok_iff.mp h
  refine ⟨hsame ▸ hdefaults, fun o' ho' => ?_⟩
  obtain ⟨o, -, heq, hvalid⟩ := mem_of_normalise h ho'
  exact heq ▸ hvalid

end RegistrySettings

/-! ### Names -/

theorem normaliseName_eq (name : String) :
    (trimName name = "" ∧ normaliseName name = .error .blankName) ∨
      (trimName name ≠ "" ∧ ∃ key, normaliseName name = .ok key) := by
  unfold trimName normaliseName
  cases Unicode.trim name.toList with
  | nil => exact Or.inl ⟨rfl, rfl⟩
  | cons c cs => exact Or.inr ⟨by simp, _, rfl⟩

namespace Registry

variable {r r' : Registry listener}

inductive Step : Registry listener → Registry listener → Prop where
  | got {r r' : Registry listener} (name : String) (explicit : Option BreakerSettings)
      (number : Nat) (h : r.getOrCreate name explicit = .ok (number, r')) : Step r r'
  | removed (r : Registry listener) (name : String) : Step r (r.remove name).2
  | served (r : Registry listener) (number : Nat) (now : Instant) (request : BreakerRequest) :
      Step r (r.serve number now request).registry
  | subscribed (r : Registry listener) (number : Nat) (l : listener) :
      Step r (r.subscribe number l).2
  | unsubscribed (r : Registry listener) (number id : Nat) : Step r (r.unsubscribe number id).2
  | reset (r : Registry listener) (now : Instant) : Step r (r.resetAll now).1
  | observed (r : Registry listener) (now : Instant) : Step r (r.states now).2.1
  | subscribedAll (r : Registry listener) (l : listener) : Step r (r.subscribeAll l).2
  | unsubscribedAll (r : Registry listener) (id : Nat) : Step r (r.unsubscribeAll id).2

/-- The registries that there can be. -/
inductive Reachable : Registry listener → Prop where
  | created {settings : RegistrySettings} {r : Registry listener} (h : create settings = .ok r) :
      Reachable r
  | step {r r' : Registry listener} (hr : Reachable r) (hs : Step r r') : Reachable r'

theorem create_eq_ok_iff {s : RegistrySettings} :
    create s = .ok r ↔ ∃ s', s.normalise = .ok s' ∧ r = { settings := s' } := by
  rw [create, bind_eq_ok_iff]
  refine exists_congr fun s' => and_congr_right fun _ => ⟨fun h => ?_, fun h => h ▸ rfl⟩
  cases h
  rfl

theorem serve_settings (r : Registry listener) (number : Nat) (now : Instant)
    (request : BreakerRequest) : (r.serve number now request).registry.settings = r.settings := by
  unfold Registry.serve
  split <;> rfl

theorem serveAll_settings (now : Instant) (request : BreakerRequest)
    (registered : List (String × Nat)) (r : Registry listener) :
    (serveAll now request registered r).2.1.settings = r.settings := by
  induction registered generalizing r with
  | nil => rfl
  | cons k rest ih =>
    show (serveAll now request rest (r.serve k.2 now request).registry).2.1.settings = _
    rw [ih, serve_settings]

theorem Step.settings_eq (h : Step r r') : r'.settings = r.settings := by
  cases h with
  | got name explicit number h =>
    obtain ⟨key, -, h⟩ := bind_eq_ok_iff.mp h
    split at h
    · cases h
      rfl
    · obtain ⟨b, -, h⟩ := bind_eq_ok_iff.mp h
      cases h
      rfl
  | removed name =>
    unfold Registry.remove
    split <;> rfl
  | served number now request => exact serve_settings r number now request
  | subscribed number l =>
    unfold Registry.subscribe
    split <;> rfl
  | unsubscribed number id =>
    unfold Registry.unsubscribe
    split <;> rfl
  | reset now => exact serveAll_settings now .reset r.registered r
  | observed now => exact serveAll_settings now .observe r.registered r
  | subscribedAll l => rfl
  | unsubscribedAll id => rfl

theorem Reachable.settings_valid (h : Reachable r) : r.settings.Valid := by
  induction h with
  | created h =>
    obtain ⟨s, hs, rfl⟩ := create_eq_ok_iff.mp h
    exact RegistrySettings.valid_of_normalise hs
  | step _ hs ih =>
    rw [hs.settings_eq]
    exact ih

theorem build_eq_ok (name : String) {s : BreakerSettings} (h : s.validate = .ok ()) :
    ∃ b : Breaker (Audience listener), build name s = .ok b := by
  unfold build CircuitBreaker.create
  cases s.enabled with
  | false => exact ⟨_, rfl⟩
  | true => exact ⟨_, by rw [h]; rfl⟩

/-- Without settings of its own a breaker can be had exactly if its name is not blank. -/
theorem Reachable.getOrCreate_eq (h : Reachable r) (name : String) :
    (trimName name = "" ∧ r.getOrCreate name none = .error .blankName) ∨
      (trimName name ≠ "" ∧ ∃ number r', r.getOrCreate name none = .ok (number, r')) := by
  rcases normaliseName_eq name with ⟨hblank, hn⟩ | ⟨hblank, key, hn⟩
  · refine Or.inl ⟨hblank, ?_⟩
    rw [getOrCreate, hn]
    rfl
  · refine Or.inr ⟨hblank, ?_⟩
    simp only [getOrCreate, hn, bind_eq_ok_iff]
    cases hl : r.registered.lookup key with
    | some number => exact ⟨number, r, key, rfl, by rw [hl]; rfl⟩
    | none =>
      obtain ⟨b, hb⟩ : ∃ b : Breaker (Audience listener), build (trimName name) _ = .ok b :=
        build_eq_ok (trimName name) (h.settings_valid.resolve key)
      refine ⟨r.breakers.length, { r with
        breakers := r.breakers ++ [b]
        registered := insertKey key r.breakers.length r.registered }, key, rfl, ?_⟩
      rw [hl]
      exact bind_eq_ok_iff.mpr ⟨b, mapError_eq_ok_iff.mpr hb, rfl⟩

end Registry

end Delivery
