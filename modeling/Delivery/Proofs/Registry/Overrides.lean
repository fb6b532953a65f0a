import Delivery.Proofs.Registry.Catalogue

/-!
# The order of overrides

Overrides come as a map from names, which has no order of its own, and a registry takes them in some
order and files them under the keys of their names; of two for one key the later counts. The order
does not decide whether settings are accepted (`RegistrySettings.accepted_iff`). It decides what
they mean exactly if two names for one key come with different settings, and then it is open which
of the two a breaker is made of. Main statement: `Registry.order_of_overrides`.
-/

namespace Delivery

/-! ### Settings -/

namespace RegistrySettings

variable {s t s' t' : RegistrySettings} {key : String}

/-- The same settings, with the overrides in another order. -/
structure Reordered (s t : RegistrySettings) : Prop where
  defaults : t.defaults = s.defaults
  overrides : t.overrides.Perm s.overrides

/-- A registry finds the same settings for every name. -/
def AgreesWith (s t : RegistrySettings) : Prop :=
  ∀ name key, keyOf name = some key → t.resolve key = s.resolve key

/-- Overrides for one key, under different spellings, are the same. -/
def Unambiguous (s : RegistrySettings) : Prop :=
  ∀ o ∈ s.overrides, ∀ o' ∈ s.overrides, keyOf o.1 = keyOf o'.1 → o.2 = o'.2

/-! ### Which settings are accepted -/

def Acceptable (s : RegistrySettings) : Prop :=
  s.defaults.validate = .ok () ∧
    ∀ o ∈ s.overrides, o.2.validate = .ok () ∧ (keyOf o.1).isSome = true

theorem exists_takeIn_iff {done : List (String × BreakerSettings)} {o : String × BreakerSettings} :
    (∃ next, takeIn done o = .ok next) ↔ o.2.validate = .ok () ∧ (keyOf o.1).isSome = true := by
  simp only [takeIn_eq_ok_iff, normaliseName_eq_ok_iff, Option.isSome_iff_exists]
  constructor
  · rintro ⟨_, hvalid, key, hkey, -⟩
    exact ⟨hvalid, key, hkey⟩
  · rintro ⟨hvalid, key, hkey⟩
    exact ⟨_, hvalid, key, hkey, rfl⟩

theorem exists_takeIn_all_iff (done : List (String × BreakerSettings))
    {overrides : List (String × BreakerSettings)} :
    (∃ last, overrides.foldlM takeIn done = .ok last) ↔
      ∀ o ∈ overrides, o.2.validate = .ok () ∧ (keyOf o.1).isSome = true := by
  induction overrides generalizing done with
  | nil => exact ⟨fun _ => nofun, fun _ => ⟨done, rfl⟩⟩
  | cons o rest ih =>
    simp only [List.foldlM_cons, List.forall_mem_cons]
    constructor
    · rintro ⟨last, h⟩
      obtain ⟨next, hnext, h⟩ := bind_eq_ok_iff.mp h
      exact ⟨exists_takeIn_iff.mp ⟨next, hnext⟩, (ih next).mp ⟨last, h⟩⟩
    · rintro ⟨ho, hrest⟩
      obtain ⟨next, hnext⟩ := exists_takeIn_iff.mpr ho
      obtain ⟨last, h⟩ := (ih next).mpr hrest
      exact ⟨last, bind_eq_ok_iff.mpr ⟨next, hnext, h⟩⟩

theorem accepted_iff : (∃ s', s.normalise = .ok s') ↔ s.Acceptable := by
  simp only [normalise_eq_ok_iff, Acceptable, ← exists_takeIn_all_iff []]
  constructor
  · rintro ⟨s', hdefaults, -, hover⟩
    exact ⟨hdefaults, s'.overrides, hover⟩
  · rintro ⟨hdefaults, last, hlast⟩
    exact ⟨⟨s.defaults, last⟩, hdefaults, rfl, hlast⟩

theorem Reordered.accepted (h : s.Reordered t) (hs : s.normalise = .ok s') :
    ∃ t', t.normalise = .ok t' := by
  obtain ⟨hdefaults, hover⟩ := accepted_iff.mp ⟨s', hs⟩
  refine accepted_iff.mpr ⟨by rw [h.defaults]; exact hdefaults, fun o ho => ?_⟩
  exact hover o (h.overrides.mem_iff.mp ho)

/-! ### Which settings a key is given -/

theorem override?_eq_none_iff :
    s.override? key = none ↔ ∀ o ∈ s.overrides, keyOf o.1 ≠ some key := by
  simp [override?]

theorem mem_of_override? {b : BreakerSettings} (h : s.override? key = some b) :
    ∃ o ∈ s.overrides, keyOf o.1 = some key ∧ o.2 = b := by
  obtain ⟨o, ho, hb⟩ := Option.map_eq_some_iff.mp h
  obtain ⟨hmem, hkey⟩ := List.mem_filter.mp (List.mem_of_getLast? ho)
  exact ⟨o, hmem, beq_iff_eq.mp hkey, hb⟩

/-- The override that comes last counts. -/
theorem override?_concat {overrides : List (String × BreakerSettings)}
    {o : String × BreakerSettings} (h : keyOf o.1 = some key) :
    override? ⟨s.defaults, overrides ++ [o]⟩ key = some o.2 := by
  simp [override?, List.filter_append, h]

/-- Settings that a key may be given: those of any override for it, or else the common ones. -/
def Candidate (s : RegistrySettings) (key : String) (b : BreakerSettings) : Prop :=
  (∃ o ∈ s.overrides, keyOf o.1 = some key ∧ o.2 = b) ∨
    ((∀ o ∈ s.overrides, keyOf o.1 ≠ some key) ∧ b = s.defaults)

theorem candidate_resolve (h : s.normalise = .ok s') (key : String) :
    s.Candidate key (s'.resolve key) := by
  rw [resolve_normalise h]
  cases hover : s.override? key with
  | some b => exact Or.inl (mem_of_override? hover)
  | none => exact Or.inr ⟨override?_eq_none_iff.mp hover, rfl⟩

theorem Reordered.candidate_iff (h : s.Reordered t) (key : String) (b : BreakerSettings) :
    t.Candidate key b ↔ s.Candidate key b := by
  simp only [Candidate, h.overrides.mem_iff, h.defaults]

/-- Every override for a key comes last in some order. -/
theorem exists_order_of_mem (hs : s.normalise = .ok s') {o : String × BreakerSettings}
    (ho : o ∈ s.overrides) (hkey : keyOf o.1 = some key) :
    ∃ t t', s.Reordered t ∧ t.normalise = .ok t' ∧ t'.resolve key = o.2 := by
  have hperm : (s.overrides.erase o ++ [o]).Perm s.overrides :=
    (List.perm_append_singleton ..).trans (List.perm_cons_erase ho).symm
  have hreordered : s.Reordered ⟨s.defaults, s.overrides.erase o ++ [o]⟩ := ⟨rfl, hperm⟩
  obtain ⟨t', ht⟩ := hreordered.accepted hs
  refine ⟨_, t', hreordered, ht, ?_⟩
  rw [resolve_normalise ht, override?_concat hkey, Option.getD_some]

theorem exists_order_of_candidate (hs : s.normalise = .ok s') {b : BreakerSettings}
    (h : s.Candidate key b) :
    ∃ t t', s.Reordered t ∧ t.normalise = .ok t' ∧ t'.resolve key = b := by
  rcases h with ⟨o, ho, hkey, rfl⟩ | ⟨hnone, rfl⟩
  · exact exists_order_of_mem hs ho hkey
  · refine ⟨s, s', ⟨rfl, .refl _⟩, hs, ?_⟩
    rw [resolve_normalise hs, override?_eq_none_iff.mpr hnone, Option.getD_none]

theorem Unambiguous.eq_of_candidate (h : s.Unambiguous) {b b' : BreakerSettings}
    (hb : s.Candidate key b) (hb' : s.Candidate key b') : b' = b := by
  rcases hb with ⟨o, ho, hkey, rfl⟩ | ⟨hnone, rfl⟩
  · rcases hb' with ⟨o', ho', hkey', rfl⟩ | ⟨hnone, -⟩
    · exact h o' ho' o ho (hkey'.trans hkey.symm)
    · exact absurd hkey (hnone o ho)
  · rcases hb' with ⟨o', ho', hkey', -⟩ | ⟨-, rfl⟩
    · exact absurd hkey' (hnone o' ho')
    · rfl

theorem unambiguous_of_agrees (hs : s.normalise = .ok s')
    (h : ∀ t u t' u', s.Reordered t → s.Reordered u → t.normalise = .ok t' →
      u.normalise = .ok u' → t'.AgreesWith u') : s.Unambiguous := by
  intro o ho o' ho' hsame
  obtain ⟨key, hkey⟩ := Option.isSome_iff_exists.mp ((accepted_iff.mp ⟨s', hs⟩).2 o ho).2
  obtain ⟨t, t', ht, hnt, hlast⟩ := exists_order_of_mem hs ho hkey
  obtain ⟨u, u', hu, hnu, hlast'⟩ := exists_order_of_mem hs ho' (hsame ▸ hkey)
  calc o.2 = t'.resolve key := hlast.symm
    _ = u'.resolve key := (h t u t' u' ht hu hnt hnu o.1 key hkey).symm
    _ = o'.2 := hlast'

end RegistrySettings

/-! ### Registries that differ in their settings alone -/

namespace Registry

variable {listener : Type} {r : Registry listener} {s t : RegistrySettings}

def withSettings (r : Registry listener) (s : RegistrySettings) : Registry listener :=
  { r with settings := s }

theorem serve_withSettings (r : Registry listener) (s : RegistrySettings) (number : Nat)
    (now : Instant) (q : BreakerRequest) : (r.withSettings s).serve number now q =
      { r.serve number now q with
        registry := (r.serve number now q).registry.withSettings s } := by
  unfold Registry.serve
  rw [show (r.withSettings s).breakers = r.breakers from rfl]
  cases r.breakers[number]? <;> rfl

theorem serveAll_withSettings (now : Instant) (q : BreakerRequest)
    (registered : List (String × Nat)) (r : Registry listener) (s : RegistrySettings) :
    serveAll now q registered (r.withSettings s) =
      ((serveAll now q registered r).1, (serveAll now q registered r).2.1.withSettings s,
        (serveAll now q registered r).2.2) := by
  induction registered generalizing r with
  | nil => rfl
  | cons k rest ih =>
    rw [serveAll, serve_withSettings]
    simp only [ih]
    rfl

theorem getOrCreate_withSettings (h : r.settings.AgreesWith s) (name : String)
    (explicit : Option BreakerSettings) : (r.withSettings s).getOrCreate name explicit =
      (r.getOrCreate name explicit).map fun got => (got.1, got.2.withSettings s) := by
  unfold getOrCreate
  cases hname : normaliseName name with
  | error e => rfl
  | ok key =>
    have hsame : (r.withSettings s).settings.resolve key = r.settings.resolve key :=
      h name key (normaliseName_eq_ok_iff.mp hname)
    have hregistered : (r.withSettings s).registered = r.registered := rfl
    simp only [bind, Except.bind, hsame, hregistered]
    cases r.registered.lookup key with
    | some number => rfl
    | none =>
      dsimp only
      cases (build (trimName name) (explicit.getD (r.settings.resolve key)) :
        Except SettingsError (Breaker (Audience listener))) <;> rfl

theorem remove_withSettings (r : Registry listener) (s : RegistrySettings) (name : String) :
    (r.withSettings s).remove name =
      ((r.remove name).1, (r.remove name).2.withSettings s) := by
  unfold Registry.remove
  cases normaliseName name <;> rfl

theorem subscribe_withSettings (r : Registry listener) (s : RegistrySettings) (number : Nat)
    (l : listener) : (r.withSettings s).subscribe number l =
      ((r.subscribe number l).1, (r.subscribe number l).2.withSettings s) := by
  unfold Registry.subscribe
  rw [show (r.withSettings s).breakers = r.breakers from rfl]
  cases r.breakers[number]? <;> rfl

theorem unsubscribe_withSettings (r : Registry listener) (s : RegistrySettings) (number id : Nat) :
    (r.withSettings s).unsubscribe number id =
      ((r.unsubscribe number id).1, (r.unsubscribe number id).2.withSettings s) := by
  unfold Registry.unsubscribe
  rw [show (r.withSettings s).breakers = r.breakers from rfl]
  cases r.breakers[number]? <;> rfl

/-- Requests look at settings only to find those for a name. -/
theorem carryOut_withSettings (h : r.settings.AgreesWith s) (now : Instant)
    (q : RegistryRequest listener) : (r.withSettings s).carryOut now q =
      { r.carryOut now q with
        registry := (r.carryOut now q).registry.withSettings s } := by
  cases q with
  | getOrCreate name explicit =>
    simp only [carryOut, getOrCreate_withSettings h]
    cases r.getOrCreate name explicit <;> rfl
  | remove name => simp only [carryOut, remove_withSettings]
  | states =>
    simp only [carryOut, states]
    rw [show (r.withSettings s).registered = r.registered from rfl, serveAll_withSettings]
  | resetAll =>
    simp only [carryOut, resetAll]
    rw [show (r.withSettings s).registered = r.registered from rfl, serveAll_withSettings]
  | serve number q => simp only [carryOut, serve_withSettings]
  | subscribe number l => simp only [carryOut, subscribe_withSettings]
  | unsubscribe number id => simp only [carryOut, unsubscribe_withSettings]
  | get name => rfl
  | names => rfl
  | size => rfl
  | subscribeAll l => rfl
  | unsubscribeAll id => rfl

theorem carryOut_settings (r : Registry listener) (now : Instant) (q : RegistryRequest listener) :
    (r.carryOut now q).registry.settings = r.settings := by
  cases q with
  | getOrCreate name explicit =>
    simp only [carryOut]
    cases hgot : r.getOrCreate name explicit with
    | ok got => exact (Step.got name explicit got.1 hgot).settings_eq
    | error e => rfl
  | remove name => exact (Step.removed r name).settings_eq
  | states => exact (Step.observed r now).settings_eq
  | resetAll => exact (Step.reset r now).settings_eq
  | serve number q => exact r.serve_settings number now q
  | subscribe number l => exact (Step.subscribed r number l).settings_eq
  | unsubscribe number id => exact (Step.unsubscribed r number id).settings_eq
  | _ => rfl

/-- What a run answers, and whom it tells of what. -/
def transcript (r : Registry listener) : RegistryLog listener →
    List (RegistryAnswer × List (Notice listener))
  | [] => []
  | e :: rest =>
    let done := r.carryOut e.1 e.2
    (done.answer, done.notices) :: done.registry.transcript rest

theorem transcript_withSettings (h : r.settings.AgreesWith s) (run : RegistryLog listener) :
    (r.withSettings s).transcript run = r.transcript run := by
  induction run generalizing r with
  | nil => rfl
  | cons e rest ih =>
    have hnext : (r.carryOut e.1 e.2).registry.settings.AgreesWith s := by
      rw [carryOut_settings]
      exact h
    simp only [transcript, carryOut_withSettings h, ih hnext]

/-! ### Orders -/

/-- What the order of overrides decides: the settings for a key may be any that are given for it,
under whatever spelling, and all orders come to the same exactly if those are all the same. -/
structure OrderLaw (listener : Type) (s : RegistrySettings) : Prop where
  accepted : ∀ t, s.Reordered t → ∃ r : Registry listener, create t = .ok r
  candidates : ∀ key b, (∃ (t : RegistrySettings) (r : Registry listener), s.Reordered t ∧
    create t = .ok r ∧ r.settings.resolve key = b) ↔ s.Candidate key b
  agrees_iff : (∀ (t u : RegistrySettings) (r r' : Registry listener), s.Reordered t →
    s.Reordered u → create t = .ok r → create u = .ok r' → r.settings.AgreesWith r'.settings) ↔
      s.Unambiguous
  -- Then nobody can tell the registries of two orders from each other.
  transcript_eq : s.Unambiguous → ∀ (t u : RegistrySettings) (r r' : Registry listener),
    s.Reordered t → s.Reordered u → create t = .ok r → create u = .ok r' →
      ∀ run, r'.transcript run = r.transcript run

theorem agrees_of_unambiguous (h : s.Unambiguous) {r' : Registry listener} {u : RegistrySettings}
    (ht : s.Reordered t) (hu : s.Reordered u) (hr : create t = .ok r) (hr' : create u = .ok r') :
    ∃ u', r' = r.withSettings u' ∧ r.settings.AgreesWith u' := by
  obtain ⟨t', ht', rfl⟩ := create_eq_ok_iff.mp hr
  obtain ⟨u', hu', rfl⟩ := create_eq_ok_iff.mp hr'
  refine ⟨u', rfl, fun _ key _ => ?_⟩
  exact h.eq_of_candidate ((ht.candidate_iff key _).mp (RegistrySettings.candidate_resolve ht' key))
    ((hu.candidate_iff key _).mp (RegistrySettings.candidate_resolve hu' key))

theorem create_of_normalise {t' : RegistrySettings} (h : t.normalise = .ok t') :
    create t = .ok ({ settings := t' } : Registry listener) := create_eq_ok_iff.mpr ⟨t', h, rfl⟩

theorem exists_create_iff_candidate (h : create s = .ok r) (key : String) (b : BreakerSettings) :
    (∃ (t : RegistrySettings) (r : Registry listener), s.Reordered t ∧ create t = .ok r ∧
      r.settings.resolve key = b) ↔ s.Candidate key b := by
  obtain ⟨s', hs, -⟩ := create_eq_ok_iff.mp h
  constructor
  · rintro ⟨t, r, ht, hr, rfl⟩
    obtain ⟨t', ht', rfl⟩ := create_eq_ok_iff.mp hr
    exact (ht.candidate_iff key _).mp (RegistrySettings.candidate_resolve ht' key)
  · intro hb
    obtain ⟨t, t', ht, ht', hb⟩ := RegistrySettings.exists_order_of_candidate hs hb
    exact ⟨t, _, ht, create_of_normalise ht', hb⟩

/-- The order of its overrides decides what a registry makes of them only where one key is given
different settings. -/
theorem order_of_overrides (h : create s = .ok r) : OrderLaw listener s where
  accepted t ht := by
    obtain ⟨s', hs, -⟩ := create_eq_ok_iff.mp h
    obtain ⟨t', ht'⟩ := ht.accepted hs
    exact ⟨_, create_of_normalise ht'⟩
  candidates := exists_create_iff_candidate h
  agrees_iff := by
    obtain ⟨s', hs, -⟩ := create_eq_ok_iff.mp h
    constructor
    · exact fun hall => RegistrySettings.unambiguous_of_agrees hs fun t u t' u' ht hu ht' hu' =>
        hall t u _ _ ht hu (create_of_normalise ht') (create_of_normalise hu')
    · intro hsingle t u r r' ht hu hr hr'
      obtain ⟨u', rfl, hagrees⟩ := agrees_of_unambiguous hsingle ht hu hr hr'
      exact hagrees
  transcript_eq hsingle t u r r' ht hu hr hr' run := by
    obtain ⟨u', rfl, hagrees⟩ := agrees_of_unambiguous hsingle ht hu hr hr'
    exact transcript_withSettings hagrees run

/-- Two spellings of one name, with the same settings. -/
def sameTwice : RegistrySettings :=
  { overrides := [(" Orders", { failureThreshold := 1 }), ("stock", { enabled := false }),
      ("orders", { failureThreshold := 1 })] }

/-- Two spellings of one name, with different settings. -/
def notTheSame : RegistrySettings :=
  { overrides := [("Orders", { enabled := false }), ("orders", { failureThreshold := 1 })] }

/-- A first failure, and another call. -/
def oneFailure : RegistryLog Nat :=
  [(0, .getOrCreate "orders" none), (0, .serve 0 (.recordFailure none)), (0, .serve 0 .acquire)]

theorem order_of_overrides_sameTwice : ∃ r : Registry Nat, create sameTwice = .ok r ∧
    OrderLaw Nat sameTwice ∧ sameTwice.Unambiguous ∧
    ∀ (t : RegistrySettings) (r' : Registry Nat), sameTwice.Reordered t → create t = .ok r' →
      r'.transcript oneFailure = r.transcript oneFailure := by
  have hnormal : sameTwice.normalise = .ok { overrides :=
      [("orders", { failureThreshold := 1 }), ("stock", { enabled := false })] } := by
    decide +kernel
  have hsingle : sameTwice.Unambiguous := by
    unfold RegistrySettings.Unambiguous
    decide +kernel
  have hcreate : create sameTwice = .ok ({ settings := _ } : Registry Nat) :=
    create_of_normalise hnormal
  have hlaw := order_of_overrides hcreate
  exact ⟨_, hcreate, hlaw, hsingle, fun t r' ht hr' =>
    hlaw.transcript_eq hsingle sameTwice t _ r' ⟨rfl, .refl _⟩ ht hcreate hr' oneFailure⟩

/-- The two orders of these overrides give two registries, and one failure tells them apart. -/
theorem order_matters : ∃ (t : RegistrySettings) (r r' : Registry Nat),
    (notTheSame.overrides.map (·.1)).Nodup ∧ notTheSame.Reordered t ∧
    create notTheSame = .ok r ∧ create t = .ok r' ∧ keyOf "orders" = some "orders" ∧
    r.settings.resolve "orders" = { failureThreshold := 1 } ∧
    r'.settings.resolve "orders" = { enabled := false } ∧
    (r.transcript oneFailure).map (·.1) =
      [.held 0, .answer .noted, .answer (.refused ⟨"orders", .ofMillis 30000⟩)] ∧
    (r'.transcript oneFailure).map (·.1) = [.held 0, .answer .noted, .answer .admitted] := by
  have hone : notTheSame.normalise =
      .ok { overrides := [("orders", { failureThreshold := 1 })] } := by decide +kernel
  let backwards : RegistrySettings := { overrides := notTheSame.overrides.reverse }
  have hother : backwards.normalise = .ok { overrides := [("orders", { enabled := false })] } := by
    decide +kernel
  refine ⟨backwards, _, _, ?_, ⟨rfl, List.reverse_perm _⟩, create_of_normalise hone,
    create_of_normalise hother, ?_, rfl, rfl, ?_, ?_⟩
  · decide
  · decide +kernel
  · decide +kernel
  · decide +kernel

end Registry

end Delivery
