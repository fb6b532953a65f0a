import Delivery.Proofs.Breaker.Eager
import Delivery.Proofs.Registry.Docket
import Delivery.Proofs.Registry.Reach

/-!
# Sessions in line with the dockets

A registry and the breakers that stand alone make of every act the same. Two breakers are alike if
both are in step with one circuit that has a timer, so a look at one of them only, as when the
states of a registry are listed, does not part them. The invariant is that every breaker of a
docket has its like in the session, under the same handle, and that both have registered the same
one; it holds for every key by itself, and an act that does not concern the key leaves it as it is.
-/

namespace Delivery

variable {listener : Type}

/-! ### Breakers that nobody can tell apart -/

/-- A breaker of a registry and one that stands alone behave alike. They need not store the same:
one of them may have been looked at since, which leaves no trace in any answer. -/
inductive Alike (now : Instant) : Breaker (Audience listener) → Breaker Empty → Prop where
  | alwaysClosed (name : String) : Alike now (.alwaysClosed name) (.alwaysClosed name)
  | circuit {s : BreakerSettings} {name : String} {past : List TimedRequest}
      {b : CircuitBreaker (Audience listener)} {b' : CircuitBreaker Empty}
      (hp : 0 < s.openDuration) (hb : Eager.InStep s (fun _ => true) name b past now)
      (hb' : Eager.InStep s (fun _ => true) name b' past now) : Alike now (.circuit b) (.circuit b')

namespace Alike

variable {now : Instant} {b : Breaker (Audience listener)} {b' : Breaker Empty}

theorem mono {t : Instant} (h : Alike t b b') (ht : t ≤ now) : Alike now b b' := by
  cases h with
  | alwaysClosed name => exact .alwaysClosed name
  | circuit hp hb hb' => exact .circuit hp (hb.mono ht) (hb'.mono ht)

theorem serve (h : Alike now b b') (q : BreakerRequest) :
    (b.serve now q).answer = (b'.serve now q).answer ∧
      Alike now (b.serve now q).breaker (b'.serve now q).breaker := by
  cases h with
  | alwaysClosed name => exact ⟨rfl, .alwaysClosed name⟩
  | circuit hp hb hb' =>
    obtain ⟨hans, hnext⟩ := hb.serve hp q
    obtain ⟨hans', hnext'⟩ := hb'.serve hp q
    exact ⟨hans.trans hans'.symm, .circuit hp hnext hnext'⟩

theorem look (h : Alike now b b') : Alike now (b.serve now .observe).breaker b' := by
  cases h with
  | alwaysClosed name => exact .alwaysClosed name
  | @circuit s name past b b' hp hb hb' =>
    have hnext := (hb.serve hp .observe).2
    have hlog : Eager.logOf (fun _ => true) ((now, .observe) :: past) =
        Eager.logOf (fun _ => true) past := Eager.logOf_silent rfl past
    have href : Eager.refusals s (fun _ => true) ((now, .observe) :: past) =
        Eager.refusals s (fun _ => true) past := Eager.refusals_silent rfl past
    refine .circuit hp ⟨hnext.settings_eq, hnext.counts_eq, hnext.name_eq, ?_⟩ hb'
    rw [← hlog, ← href]
    exact hnext.circuit

theorem subscribe (h : Alike now b b') (l : Audience listener) :
    Alike now (b.subscribe l).2 b' := by
  cases h with
  | alwaysClosed name => exact .alwaysClosed name
  | circuit hp hb hb' =>
    exact .circuit hp ⟨hb.settings_eq, hb.counts_eq, hb.name_eq, hb.circuit⟩ hb'

theorem unsubscribe (h : Alike now b b') (id : Nat) : Alike now (b.unsubscribe id).2 b' := by
  cases h with
  | alwaysClosed name => exact .alwaysClosed name
  | circuit hp hb hb' =>
    exact .circuit hp ⟨hb.settings_eq, hb.counts_eq, hb.name_eq, hb.circuit⟩ hb'

end Alike

/-- A registry makes the breaker that stands alone, or refuses with the same error. -/
theorem Registry.build_alike (name : String) (s : BreakerSettings) :
    (∃ e, (build name s : Except _ (Breaker (Audience listener))) = .error e ∧
        Breaker.alone name s = .error e) ∨
      ∃ (b : Breaker (Audience listener)) (b' : Breaker Empty),
        build name s = .ok b ∧ Breaker.alone name s = .ok b' ∧ ∀ now, Alike now b b' := by
  unfold build Breaker.alone
  cases s.enabled with
  | false => exact Or.inr ⟨_, _, rfl, rfl, fun _ => .alwaysClosed name⟩
  | true =>
    cases hv : s.validate with
    | error e =>
      simp only [CircuitBreaker.create, hv]
      exact Or.inl ⟨e, rfl, rfl⟩
    | ok u =>
      have hp : 0 < s.openDuration :=
        Nat.mul_pos ((BreakerSettings.validate_eq_ok_iff s).mp hv).2.2 (by decide)
      have hmade : ∀ α : Type,
          (CircuitBreaker.create name s (fun _ => true) : Except _ (CircuitBreaker α)) =
            .ok { name, settings := s, counts := fun _ => true } := fun α => by
        rw [CircuitBreaker.create, hv]
        rfl
      refine Or.inr ⟨_, _, by rw [hmade]; rfl, by rw [hmade]; rfl, fun now => ?_⟩
      have halike : Alike now (.circuit { name, settings := s, counts := fun _ => true })
          (.circuit { name, settings := s, counts := fun _ => true }) :=
        .circuit hp (Eager.create_inStep (hmade (Audience listener)) now)
          (Eager.create_inStep (hmade Empty) now)
      exact halike.subscribe .registry

/-! ### Sessions in good order -/

namespace RegistrySession

/-- Every breaker has a handle of its own, the handles of a key are numbered from nought on, and a
key is registered once, for a breaker of that key. -/
structure Orderly (σ : RegistrySession listener) : Prop where
  length_eq : σ.handles.length = σ.registry.breakers.length
  distinct : σ.handles.Nodup
  counted : ∀ h ∈ σ.handles, h.generation < σ.made h.key
  filed : ∀ e ∈ σ.registry.registered, ∃ g, σ.handles[e.2]? = some ⟨e.1, g⟩
  keys : (σ.registry.registered.map (·.1)).Nodup

variable {σ : RegistrySession listener}

namespace Orderly

theorem number_eq (h : σ.Orderly) {n : Nat} {handle : BreakerHandle}
    (hn : σ.handles[n]? = some handle) : σ.number handle = n := by
  obtain ⟨hlt, rfl⟩ := List.getElem?_eq_some_iff.mp hn
  exact h.distinct.idxOf_getElem n hlt

/-- No breaker is registered under two keys. -/
theorem numbers (h : σ.Orderly) : (σ.registry.registered.map (·.2)).Nodup := by
  refine List.Nodup.of_map (fun n => (σ.handles[n]?.map (·.key)).getD "") ?_
  have hkey : (σ.registry.registered.map (·.2)).map
      (fun n => (σ.handles[n]?.map (·.key)).getD "") = σ.registry.registered.map (·.1) := by
    rw [List.map_map]
    refine List.map_congr_left fun e he => ?_
    obtain ⟨g, hg⟩ := h.filed e he
    simp only [Function.comp_apply, hg, Option.map_some, Option.getD_some]
  rw [hkey]
  exact h.keys

/-- Whatever is done with the breakers, if none is made and none registered, order remains. -/
theorem of_fixed (h : σ.Orderly) {r : Registry listener}
    (hregistered : r.registered = σ.registry.registered)
    (hlength : r.breakers.length = σ.registry.breakers.length) :
    Orderly ⟨r, σ.handles⟩ where
  length_eq := h.length_eq.trans hlength.symm
  distinct := h.distinct
  counted := h.counted
  filed := hregistered ▸ h.filed
  keys := hregistered ▸ h.keys

theorem number_eq_iff (h : σ.Orderly) {n : Nat} {handle other : BreakerHandle}
    (hn : σ.handles[n]? = some handle) : n = σ.number other ↔ other = handle := by
  constructor
  · rintro rfl
    by_cases hmem : other ∈ σ.handles
    · exact Option.some.inj ((List.getElem?_idxOf hmem).symm.trans hn)
    · rw [RegistrySession.number, List.idxOf_eq_length hmem, List.getElem?_length] at hn
      cases hn
  · rintro rfl
    exact (h.number_eq hn).symm

end Orderly

/-- What comes of asking for a breaker by name. -/
inductive Asked (σ : RegistrySession listener) (name : String)
    (explicit : Option BreakerSettings) : RegistryReply → RegistrySession listener → Prop where
  | blank (e : RegistryError) (hk : keyOf name = none) : Asked σ name explicit (.refused e) σ
  | known (key : String) (n g : Nat) (hk : keyOf name = some key)
      (hl : σ.registry.registered.lookup key = some n) (hg : σ.handles[n]? = some ⟨key, g⟩) :
      Asked σ name explicit (.held ⟨key, g⟩) σ
  | unusable (key : String) (e : SettingsError) (hk : keyOf name = some key)
      (hl : σ.registry.registered.lookup key = none)
      (hb : Docket.newcomer σ.registry.settings key name explicit = .error e) :
      Asked σ name explicit (.refused (.settings e)) σ
  | made (key : String) (b : Breaker (Audience listener)) (b' : Breaker Empty)
      (hk : keyOf name = some key) (hl : σ.registry.registered.lookup key = none)
      (hb : Docket.newcomer σ.registry.settings key name explicit = .ok b')
      (halike : ∀ now, Alike now b b') :
      Asked σ name explicit (.held ⟨key, σ.made key⟩)
        ⟨σ.registry.enter key b, σ.handles ++ [⟨key, σ.made key⟩]⟩

theorem Orderly.asked (h : σ.Orderly) (now : Instant) (name : String)
    (explicit : Option BreakerSettings) :
    Asked σ name explicit (σ.perform now (.getOrCreate name explicit)).1
      (σ.perform now (.getOrCreate name explicit)).2 := by
  cases hk : normaliseName name with
  | error e =>
    simp only [perform, hk]
    exact .blank e (by rw [keyOf, hk])
  | ok key =>
    have hkey : keyOf name = some key := normaliseName_eq_ok_iff.mp hk
    cases hl : σ.registry.registered.lookup key with
    | some n =>
      obtain ⟨g, hg⟩ := h.filed (key, n) (Registry.mem_of_lookup hl)
      simp only [perform, hk, Registry.getOrCreate_of_registered hk hl, hold, hg]
      exact .known key n g hkey hl hg
    | none =>
      have hbuild := @Registry.build_alike listener (trimName name)
        (explicit.getD (σ.registry.settings.resolve key))
      rcases hbuild with ⟨e, hb, hb'⟩ | ⟨b, b', hb, hb', halike⟩
      · simp only [perform, hk, Registry.getOrCreate_of_refused hk hl hb]
        exact .unusable key e hkey hl hb'
      · have hnew : σ.handles[σ.registry.breakers.length]? = none := by
          rw [← h.length_eq, List.getElem?_length]
        simp only [perform, hk, Registry.getOrCreate_of_built hk hl hb, hold, hnew]
        exact .made key b b' hkey hl hb' halike

/-! ### What a session keeps -/

theorem made_append (σ : RegistrySession listener) (r : Registry listener) (handle : BreakerHandle)
    (key : String) :
    made ⟨r, σ.handles ++ [handle]⟩ key = σ.made key + if handle.key = key then 1 else 0 := by
  simp only [made, List.countP_append, List.countP_singleton, beq_iff_eq]

theorem Orderly.enter (h : σ.Orderly) {key : String}
    (hl : σ.registry.registered.lookup key = none) (b : Breaker (Audience listener)) :
    Orderly ⟨σ.registry.enter key b, σ.handles ++ [⟨key, σ.made key⟩]⟩ where
  length_eq := by simp only [Registry.enter, List.length_append, h.length_eq, List.length_singleton]
  distinct := by
    refine List.nodup_append.mpr ⟨h.distinct, List.nodup_singleton _, ?_⟩
    intro handle hmem new hnew heq
    rw [List.mem_singleton.mp hnew] at heq
    subst heq
    exact Nat.lt_irrefl _ (h.counted _ hmem)
  counted := by
    intro handle hmem
    rw [made_append]
    rcases List.mem_append.mp hmem with hold | hnew
    · exact Nat.lt_add_right _ (h.counted handle hold)
    · rw [List.mem_singleton.mp hnew]
      simp
  filed := by
    intro e he
    rcases List.mem_cons.mp ((Registry.insertKey_perm ..).mem_iff.mp he) with rfl | hold
    · exact ⟨σ.made key, by simp [← h.length_eq]⟩
    · obtain ⟨g, hg⟩ := h.filed e hold
      refine ⟨g, ?_⟩
      rw [List.getElem?_append_left (List.getElem?_eq_some_iff.mp hg).1]
      exact hg
  keys := Registry.nodup_insertKey h.keys hl _

theorem Orderly.remove (h : σ.Orderly) (name : String) :
    Orderly ⟨(σ.registry.remove name).2, σ.handles⟩ := by
  cases hk : normaliseName name with
  | error e =>
    rw [Registry.remove_of_error hk]
    exact h
  | ok key =>
    rw [Registry.remove_of_ok hk]
    exact {
      length_eq := h.length_eq
      distinct := h.distinct
      counted := h.counted
      filed := fun e he => h.filed e (List.mem_filter.mp he).1
      keys := h.keys.sublist (List.filter_sublist.map _) }

theorem Orderly.alter (h : σ.Orderly) (n : Nat)
    (f : Breaker (Audience listener) → Breaker (Audience listener)) :
    Orderly ⟨σ.registry.alter n f, σ.handles⟩ := h.of_fixed rfl (List.length_modify ..)

theorem Orderly.alterAll (h : σ.Orderly) (numbers : List Nat)
    (f : Breaker (Audience listener) → Breaker (Audience listener)) :
    Orderly ⟨σ.registry.alterAll numbers f, σ.handles⟩ :=
  h.of_fixed (σ.registry.alterAll_fixed numbers f).1 (σ.registry.alterAll_fixed numbers f).2.2

theorem Orderly.perform (h : σ.Orderly) (now : Instant) (act : RegistryAct listener) :
    (σ.perform now act).2.Orderly := by
  cases act with
  | getOrCreate name explicit =>
    have hasked := h.asked now name explicit
    generalize (σ.perform now (.getOrCreate name explicit)).1 = reply,
      (σ.perform now (.getOrCreate name explicit)).2 = σ' at hasked
    cases hasked with
    | blank e hk => exact h
    | known key n g hk hl hg => exact h
    | unusable key e hk hl hb => exact h
    | made key b b' hk hl hb halike => exact h.enter hl b
  | get name => exact h
  | remove name => exact h.remove name
  | resetAll =>
    simp only [RegistrySession.perform, Registry.resetAll_registry]
    exact h.alterAll _ _
  | states =>
    simp only [RegistrySession.perform, Registry.states_registry]
    exact h.alterAll _ _
  | ask handle q =>
    simp only [RegistrySession.perform, Registry.serve_registry]
    exact h.alter _ _
  | subscribe handle l =>
    simp only [RegistrySession.perform, Registry.subscribe_registry]
    exact h.alter _ _
  | unsubscribe handle id =>
    simp only [RegistrySession.perform, Registry.unsubscribe_registry]
    exact h.alter _ _

/-! ### Sessions and dockets -/

theorem getElem?_append_of_some {α : Type} {list : List α} {n : Nat} {a : α}
    (h : list[n]? = some a) (more : List α) : (list ++ more)[n]? = some a := by
  rw [List.getElem?_append_left (List.getElem?_eq_some_iff.mp h).1, h]

/-- The session is in line with the docket of a key: it holds the breakers of the docket, under
their handles, and registers the one that is current. -/
structure InLine (settings : RegistrySettings) (key : String) (D : Docket)
    (σ : RegistrySession listener) (now : Instant) : Prop where
  settings_eq : σ.registry.settings = settings
  made_eq : σ.made key = D.breakers.length
  lookup_eq : σ.registry.registered.lookup key = D.current.map fun g => σ.number ⟨key, g⟩
  current_lt : ∀ g, D.current = some g → g < D.breakers.length
  alike : ∀ (g : Nat) (lone : LoneBreaker), D.breakers[g]? = some lone →
    ∃ (n : Nat) (b : Breaker (Audience listener)),
      σ.handles[n]? = some ⟨key, g⟩ ∧ σ.registry.breakers[n]? = some b ∧
      Alike now b lone.breaker

variable {settings : RegistrySettings} {key : String} {D : Docket} {now : Instant}

namespace InLine

theorem mono {t : Instant} (h : InLine settings key D σ t) (ht : t ≤ now) :
    InLine settings key D σ now where
  settings_eq := h.settings_eq
  made_eq := h.made_eq
  lookup_eq := h.lookup_eq
  current_lt := h.current_lt
  alike g lone hg := by
    obtain ⟨n, b, hn, hb, halike⟩ := h.alike g lone hg
    exact ⟨n, b, hn, hb, halike.mono ht⟩

theorem start {r : Registry listener} (hr : r.registered = [])
    (now : Instant) : InLine r.settings key {} ⟨r, []⟩ now where
  settings_eq := rfl
  made_eq := rfl
  lookup_eq := by simp [hr]
  current_lt := nofun
  alike := by simp

/-- The registered breaker of a key. -/
theorem current (ho : σ.Orderly) (h : InLine settings key D σ now) {g : Nat}
    (hg : D.current = some g) :
    ∃ (n : Nat) (b : Breaker (Audience listener)) (lone : LoneBreaker),
      σ.registry.registered.lookup key = some n ∧ σ.handles[n]? = some ⟨key, g⟩ ∧
      σ.registry.breakers[n]? = some b ∧ D.breakers[g]? = some lone ∧ Alike now b lone.breaker := by
  have hlone := List.getElem?_eq_getElem (h.current_lt g hg)
  obtain ⟨n, b, hn, hb, halike⟩ := h.alike g _ hlone
  refine ⟨n, b, _, ?_, hn, hb, hlone, halike⟩
  rw [h.lookup_eq, hg, Option.map_some, ho.number_eq hn]

theorem lookup_eq_none (h : InLine settings key D σ now) :
    σ.registry.registered.lookup key = none ↔ D.current = none := by
  rw [h.lookup_eq, Option.map_eq_none_iff]

theorem mem_numbers (ho : σ.Orderly) (h : InLine settings key D σ now) {n g : Nat}
    (hn : σ.handles[n]? = some ⟨key, g⟩) :
    n ∈ σ.registry.registered.map (·.2) ↔ D.current = some g := by
  constructor
  · intro hmem
    obtain ⟨⟨key', n'⟩, he, rfl⟩ := List.mem_map.mp hmem
    obtain ⟨g', hg'⟩ := ho.filed _ he
    obtain ⟨rfl, rfl⟩ := BreakerHandle.mk.inj (Option.some.inj (hg'.symm.trans hn))
    have hl := Registry.lookup_of_mem ho.keys he
    cases hc : D.current with
    | none =>
      rw [h.lookup_eq_none.mpr hc] at hl
      cases hl
    | some c =>
      obtain ⟨m, b, lone, hm, hat, -⟩ := h.current ho hc
      obtain rfl := Option.some.inj (hm.symm.trans hl)
      exact congrArg (fun o : BreakerHandle => some o.generation)
        (Option.some.inj (hat.symm.trans hn))
  · intro hc
    obtain ⟨m, b, lone, hm, hat, -⟩ := h.current ho hc
    have heq : m = n := (ho.number_eq hat).symm.trans (ho.number_eq hn)
    subst heq
    exact List.mem_map.mpr ⟨_, Registry.mem_of_lookup hm, rfl⟩

/-- Some breakers change, and the docket with them, but none is made, registered or given up. -/
theorem of_breakers (h : InLine settings key D σ now) (touched : Nat → Prop)
    [DecidablePred touched] (f : Breaker (Audience listener) → Breaker (Audience listener))
    (k : LoneBreaker → LoneBreaker) {r : Registry listener} {D' : Docket}
    (hregistered : r.registered = σ.registry.registered)
    (hsettings : r.settings = σ.registry.settings) (hcurrent : D'.current = D.current)
    (hlength : D'.breakers.length = D.breakers.length)
    (hr : ∀ n g : Nat, σ.handles[n]? = some ⟨key, g⟩ → r.breakers[n]? =
      if touched g then σ.registry.breakers[n]?.map f else σ.registry.breakers[n]?)
    (hD : ∀ g, D'.breakers[g]? =
      if touched g then D.breakers[g]?.map k else D.breakers[g]?)
    (halike : ∀ (b : Breaker (Audience listener)) (lone : LoneBreaker),
      Alike now b lone.breaker → Alike now (f b) (k lone).breaker) :
    InLine settings key D' ⟨r, σ.handles⟩ now where
  settings_eq := hsettings.trans h.settings_eq
  made_eq := h.made_eq.trans hlength.symm
  lookup_eq := by
    rw [hregistered, hcurrent]
    exact h.lookup_eq
  current_lt g hg := by
    rw [hlength]
    exact h.current_lt g (hcurrent ▸ hg)
  alike g new hg := by
    rw [hD] at hg
    by_cases ht : touched g
    · rw [if_pos ht] at hg
      obtain ⟨lone, hlone, rfl⟩ := Option.map_eq_some_iff.mp hg
      obtain ⟨n, b, hn, hb, hsame⟩ := h.alike g lone hlone
      refine ⟨n, f b, hn, ?_, halike b lone hsame⟩
      show r.breakers[n]? = _
      rw [hr n g hn, if_pos ht, hb, Option.map_some]
    · rw [if_neg ht] at hg
      obtain ⟨n, b, hn, hb, hsame⟩ := h.alike g new hg
      refine ⟨n, b, hn, ?_, hsame⟩
      show r.breakers[n]? = _
      rw [hr n g hn, if_neg ht, hb]

/-- Something is done with one breaker, which is of this key or not. -/
theorem alter (ho : σ.Orderly) (h : InLine settings key D σ now) (handle : BreakerHandle)
    (f : Breaker (Audience listener) → Breaker (Audience listener))
    (k : LoneBreaker → LoneBreaker) {D' : Docket} (hcurrent : D'.current = D.current)
    (hlength : D'.breakers.length = D.breakers.length)
    (hD : ∀ g, D'.breakers[g]? =
      if handle = ⟨key, g⟩ then D.breakers[g]?.map k else D.breakers[g]?)
    (halike : ∀ (b : Breaker (Audience listener)) (lone : LoneBreaker),
      Alike now b lone.breaker → Alike now (f b) (k lone).breaker) :
    InLine settings key D' ⟨σ.registry.alter (σ.number handle) f, σ.handles⟩ now := by
  refine h.of_breakers (fun g => handle = ⟨key, g⟩) f k rfl rfl hcurrent hlength ?_ hD halike
  intro n g hn
  simp only [Registry.alter_breakers, ho.number_eq_iff hn]

/-- Something is done with all registered breakers, and so with the current one of this key. -/
theorem alterAll (ho : σ.Orderly) (h : InLine settings key D σ now)
    (f : Breaker (Audience listener) → Breaker (Audience listener))
    (k : LoneBreaker → LoneBreaker) {D' : Docket} (hcurrent : D'.current = D.current)
    (hlength : D'.breakers.length = D.breakers.length)
    (hD : ∀ g, D'.breakers[g]? =
      if D.current = some g then D.breakers[g]?.map k else D.breakers[g]?)
    (halike : ∀ (b : Breaker (Audience listener)) (lone : LoneBreaker),
      Alike now b lone.breaker → Alike now (f b) (k lone).breaker) :
    InLine settings key D'
      ⟨σ.registry.alterAll (σ.registry.registered.map (·.2)) f, σ.handles⟩ now := by
  obtain ⟨hregistered, hsettings, -⟩ :=
    σ.registry.alterAll_fixed (σ.registry.registered.map (·.2)) f
  refine h.of_breakers (fun g => D.current = some g) f k hregistered hsettings hcurrent hlength ?_
    hD halike
  intro n g hn
  simp only [Registry.alterAll_breakers ho.numbers, h.mem_numbers ho hn]

/-- A breaker that is made goes on the docket of its own key. -/
theorem enter_own (ho : σ.Orderly) (h : InLine settings key D σ now)
    (hl : σ.registry.registered.lookup key = none) {b : Breaker (Audience listener)}
    {b' : Breaker Empty} (halike : Alike now b b') :
    InLine settings key ⟨D.breakers ++ [⟨b', []⟩], some D.breakers.length⟩
      ⟨σ.registry.enter key b, σ.handles ++ [⟨key, σ.made key⟩]⟩ now where
  settings_eq := h.settings_eq
  made_eq := by
    rw [made_append, if_pos rfl, h.made_eq, List.length_append, List.length_singleton]
  lookup_eq := by
    have hnew : (σ.handles ++ [⟨key, σ.made key⟩])[σ.registry.breakers.length]? =
        some ⟨key, σ.made key⟩ := by
      simp [← ho.length_eq]
    rw [Registry.enter, Registry.lookup_insertKey hl, if_pos rfl, Option.map_some, ← h.made_eq,
      ← (ho.enter hl b).number_eq hnew]
    rfl
  current_lt g hg := by
    cases hg
    simp
  alike g lone hg := by
    by_cases hlt : g < D.breakers.length
    · rw [List.getElem?_append_left hlt] at hg
      obtain ⟨n, c, hn, hc, hsame⟩ := h.alike g lone hg
      exact ⟨n, c, getElem?_append_of_some hn _, getElem?_append_of_some hc _, hsame⟩
    · obtain ⟨rfl, rfl⟩ : g = D.breakers.length ∧ lone = ⟨b', []⟩ := by grind
      refine ⟨σ.registry.breakers.length, b, ?_, by simp [Registry.enter], halike⟩
      simp [← ho.length_eq, h.made_eq]

/-- A breaker of another key is made. -/
theorem enter_other (ho : σ.Orderly) (h : InLine settings key D σ now) {other : String}
    (hne : other ≠ key) (hl : σ.registry.registered.lookup other = none)
    (b : Breaker (Audience listener)) :
    InLine settings key D ⟨σ.registry.enter other b, σ.handles ++ [⟨other, σ.made other⟩]⟩ now where
  settings_eq := h.settings_eq
  made_eq := by
    rw [made_append, if_neg hne, h.made_eq, Nat.add_zero]
  lookup_eq := by
    rw [Registry.enter, Registry.lookup_insertKey hl, if_neg (Ne.symm hne)]
    cases hc : D.current with
    | none => exact h.lookup_eq_none.mpr hc
    | some g =>
      obtain ⟨n, c, lone, hat, hn, -⟩ := h.current ho hc
      rw [hat, Option.map_some]
      exact congrArg some ((ho.enter hl b).number_eq (getElem?_append_of_some hn _)).symm
  current_lt := h.current_lt
  alike g lone hg := by
    obtain ⟨n, c, hn, hc, hsame⟩ := h.alike g lone hg
    exact ⟨n, c, getElem?_append_of_some hn _, getElem?_append_of_some hc _, hsame⟩

/-- A name is given up, of this key or of another. -/
theorem remove (h : InLine settings key D σ now) (other : String) :
    InLine settings key { D with current := if key = other then none else D.current }
      ⟨{ σ.registry with registered := σ.registry.registered.filter (·.1 != other) }, σ.handles⟩
      now where
  settings_eq := h.settings_eq
  made_eq := h.made_eq
  lookup_eq := by
    rw [Registry.lookup_filter_ne]
    split
    · rfl
    · exact h.lookup_eq
  current_lt g hg := by
    split at hg
    · cases hg
    · exact h.current_lt g hg
  alike := h.alike

/-- A handle that is not on the docket is not handed out either. -/
theorem breaker_eq_none (ho : σ.Orderly) (h : InLine settings key D σ now) {g : Nat}
    (hg : D.breakers[g]? = none) : σ.registry.breakers[σ.number ⟨key, g⟩]? = none := by
  have hnot : ⟨key, g⟩ ∉ σ.handles := by
    intro hmem
    have hlt := ho.counted _ hmem
    rw [h.made_eq] at hlt
    exact Nat.not_lt.mpr (List.getElem?_eq_none_iff.mp hg) hlt
  rw [number, List.idxOf_eq_length hnot, ho.length_eq, List.getElem?_length]

theorem answer_eq (ho : σ.Orderly) (h : InLine settings key D σ now) (g : Nat)
    (q : BreakerRequest) :
    (σ.registry.serve (σ.number ⟨key, g⟩) now q).answer =
      (D.breakers[g]?.map (·.answer now q)).getD .noted := by
  rw [Registry.serve_answer]
  cases hg : D.breakers[g]? with
  | none => rw [h.breaker_eq_none ho hg, Option.map_none, Option.map_none]
  | some lone =>
    obtain ⟨n, b, hn, hb, halike⟩ := h.alike g lone hg
    rw [ho.number_eq hn, hb, Option.map_some, Option.map_some, Option.getD_some, Option.getD_some]
    exact (halike.serve q).1

/-- The listed states, as far as they are about the key. -/
theorem states_under (ho : σ.Orderly) (h : InLine settings key D σ now) :
    (σ.registry.states now).1.filter (·.1 == key) =
      (D.current.bind (D.breakers[·]?)).toList.map fun lone =>
        (key, (lone.answer now .observe).state) := by
  have hkeys : ((σ.registry.registered.map fun e =>
      (e.1, (σ.registry.serve e.2 now .observe).answer.state)).map (·.1)).Nodup := by
    rw [List.map_map]
    exact ho.keys
  rw [Registry.states_answers ho.numbers, Registry.filter_key_eq_lookup hkeys,
    Registry.lookup_map fun n => (σ.registry.serve n now .observe).answer.state, h.lookup_eq]
  cases hc : D.current with
  | none => rfl
  | some g =>
    have hlone := List.getElem?_eq_getElem (h.current_lt g hc)
    simp only [Option.map_some, h.answer_eq ho, hlone, Option.bind_some, Option.getD_some,
      Option.toList_some, List.map_cons, List.map_nil]

/-! ### Acts -/

theorem ask (ho : σ.Orderly) (h : InLine settings key D σ now) (handle : BreakerHandle)
    (q : BreakerRequest) :
    InLine settings key (if handle.key = key then D.ask handle.generation (now, q) else D)
      ⟨(σ.registry.serve (σ.number handle) now q).registry, σ.handles⟩ now := by
  rw [Registry.serve_registry]
  obtain ⟨k, generation⟩ := handle
  refine h.alter ho ⟨k, generation⟩ _ (·.ask [(now, q)]) ?_ ?_ ?_ ?_
  · split
    · rfl
    · rfl
  · split
    · exact Docket.ask_length ..
    · rfl
  · intro g
    by_cases hk : k = key
    · simp only [hk, if_true, Docket.ask_breakers, BreakerHandle.mk.injEq, true_and, eq_comm]
    · simp only [hk, if_false, BreakerHandle.mk.injEq, false_and]
  · intro b lone hsame
    rw [LoneBreaker.breaker_ask]
    exact (hsame.serve q).2

/-- Listeners of a breaker come and go. -/
theorem listen (ho : σ.Orderly) (h : InLine settings key D σ now) (handle : BreakerHandle)
    {f : Breaker (Audience listener) → Breaker (Audience listener)}
    (hf : ∀ b b', Alike now b b' → Alike now (f b) b') :
    InLine settings key D ⟨σ.registry.alter (σ.number handle) f, σ.handles⟩ now :=
  h.alter ho handle f id rfl rfl (by simp) fun b lone hsame => hf b lone.breaker hsame

theorem getOrCreate (ho : σ.Orderly) (h : InLine settings key D σ now) (name : String)
    (explicit : Option BreakerSettings) :
    (keyOf name = some key → (σ.perform now (.getOrCreate name explicit)).1.under key =
      D.reply settings key now (.getOrCreate name explicit : RegistryAct listener)) ∧
    InLine settings key
      (if keyOf name = some key then
        D.note settings key now (.getOrCreate name explicit : RegistryAct listener) else D)
      (σ.perform now (.getOrCreate name explicit)).2 now := by
  have hasked := ho.asked now name explicit
  generalize (σ.perform now (.getOrCreate name explicit)).1 = reply,
    (σ.perform now (.getOrCreate name explicit)).2 = σ' at hasked
  by_cases hc : keyOf name = some key
  · rw [if_pos hc]
    cases hasked with
    | blank e hk => cases hk.symm.trans hc
    | known other n g hk hl hg =>
      obtain rfl := Option.some.inj (hk.symm.trans hc)
      cases hcurrent : D.current with
      | none => cases (h.lookup_eq_none.mpr hcurrent).symm.trans hl
      | some c =>
        obtain ⟨m, b, lone, hm, hat, -⟩ := h.current ho hcurrent
        obtain rfl := Option.some.inj (hm.symm.trans hl)
        have heq : BreakerHandle.mk other c = ⟨other, g⟩ := Option.some.inj (hat.symm.trans hg)
        obtain rfl : c = g := congrArg BreakerHandle.generation heq
        simp only [RegistryReply.under, Docket.reply, Docket.note, hcurrent]
        exact ⟨fun _ => trivial, h⟩
    | unusable other e hk hl hb =>
      obtain rfl := Option.some.inj (hk.symm.trans hc)
      rw [h.settings_eq] at hb
      simp only [RegistryReply.under, Docket.reply, Docket.note, h.lookup_eq_none.mp hl, hb]
      exact ⟨fun _ => trivial, h⟩
    | made other b b' hk hl hb halike =>
      obtain rfl := Option.some.inj (hk.symm.trans hc)
      rw [h.settings_eq] at hb
      simp only [RegistryReply.under, Docket.reply, Docket.note, h.lookup_eq_none.mp hl, hb,
        h.made_eq]
      exact ⟨fun _ => trivial, h.made_eq ▸ h.enter_own ho hl (halike now)⟩
  · refine ⟨fun hk => absurd hk hc, ?_⟩
    rw [if_neg hc]
    cases hasked with
    | blank e hk => exact h
    | known other n g hk hl hg => exact h
    | unusable other e hk hl hb => exact h
    | made other b b' hk hl hb halike =>
      exact h.enter_other ho (fun heq => hc (heq ▸ hk)) hl b

theorem giveUp (h : InLine settings key D σ now) (name : String) :
    InLine settings key (if keyOf name = some key then { D with current := none } else D)
      ⟨(σ.registry.remove name).2, σ.handles⟩ now := by
  cases hk : normaliseName name with
  | error e =>
    rw [Registry.remove_of_error hk, if_neg (by simp [keyOf, hk])]
    exact h
  | ok other =>
    have hother := normaliseName_eq_ok_iff.mp hk
    have hremove := h.remove other
    rw [Registry.remove_of_ok hk, hother]
    by_cases hc : key = other
    · rw [if_pos hc] at hremove
      rw [if_pos (congrArg some hc.symm)]
      exact hremove
    · rw [if_neg hc] at hremove
      rw [if_neg fun heq => hc (Option.some.inj heq).symm]
      exact hremove

theorem resetAll (ho : σ.Orderly) (h : InLine settings key D σ now) :
    InLine settings key (D.note settings key now (.resetAll : RegistryAct listener))
      ⟨(σ.registry.resetAll now).1, σ.handles⟩ now := by
  obtain ⟨hcurrent, hlength, hD⟩ := @Docket.note_resetAll listener settings key D now
  rw [Registry.resetAll_registry]
  refine h.alterAll ho _ _ hcurrent hlength hD ?_
  intro b lone hsame
  rw [LoneBreaker.breaker_ask]
  exact (hsame.serve .reset).2

theorem states (ho : σ.Orderly) (h : InLine settings key D σ now) :
    InLine settings key D ⟨(σ.registry.states now).2.1, σ.handles⟩ now := by
  rw [Registry.states_registry]
  exact h.alterAll ho _ id rfl rfl (by simp) fun b lone hsame => hsame.look

/-- An act that concerns the key is noted on its docket, any other changes nothing of it. -/
theorem perform (ho : σ.Orderly) (h : InLine settings key D σ now) (act : RegistryAct listener) :
    InLine settings key (if act.concerns key then D.note settings key now act else D)
      (σ.perform now act).2 now := by
  cases act with
  | getOrCreate name explicit =>
    simpa [RegistryAct.concerns] using (h.getOrCreate ho name explicit).2
  | get name => simpa [RegistrySession.perform, RegistryAct.concerns, Docket.note] using h
  | remove name =>
    simpa [RegistrySession.perform, RegistryAct.concerns, Docket.note] using h.giveUp name
  | resetAll => exact h.resetAll ho
  | states => exact h.states ho
  | ask handle q =>
    simpa [RegistrySession.perform, RegistryAct.concerns, Docket.note] using h.ask ho handle q
  | subscribe handle l =>
    have hnext := h.listen ho handle fun b b' hsame => hsame.subscribe (.only l)
    rw [← Registry.subscribe_registry] at hnext
    simpa [RegistrySession.perform, RegistryAct.concerns, Docket.note] using hnext
  | unsubscribe handle id =>
    have hnext := h.listen ho handle fun b b' hsame => hsame.unsubscribe id
    rw [← Registry.unsubscribe_registry] at hnext
    simpa [RegistrySession.perform, RegistryAct.concerns, Docket.note] using hnext

/-- What is said under the key is what its docket says. -/
theorem reply_eq (ho : σ.Orderly) (h : InLine settings key D σ now) (act : RegistryAct listener)
    (hc : act.concerns key = true) :
    (σ.perform now act).1.under key = D.reply settings key now act := by
  cases act with
  | getOrCreate name explicit => exact (h.getOrCreate ho name explicit).1 (beq_iff_eq.mp hc)
  | get name =>
    have hname := normaliseName_eq_ok_iff.mpr (beq_iff_eq.mp hc)
    simp only [RegistrySession.perform, RegistryReply.under, Docket.reply, Registry.get?, hname,
      h.lookup_eq]
    cases hcurrent : D.current with
    | none => rfl
    | some g =>
      obtain ⟨n, b, lone, -, hn, -⟩ := h.current ho hcurrent
      simp only [Option.map_some, Option.bind_some, ho.number_eq hn, hn]
  | remove name =>
    have hname := normaliseName_eq_ok_iff.mpr (beq_iff_eq.mp hc)
    simp only [RegistrySession.perform, RegistryReply.under, Docket.reply,
      Registry.remove_of_ok hname, Registry.any_key_eq_lookup, h.lookup_eq, Option.isSome_map]
  | resetAll => rfl
  | states =>
    simp only [RegistrySession.perform, RegistryReply.under, Docket.reply, h.states_under ho]
  | ask handle q =>
    obtain ⟨k, generation⟩ := handle
    obtain rfl : k = key := beq_iff_eq.mp hc
    simp only [RegistrySession.perform, RegistryReply.under, Docket.reply, h.answer_eq ho]
  | subscribe handle l => rfl
  | unsubscribe handle id => rfl

end InLine

end RegistrySession

end Delivery
