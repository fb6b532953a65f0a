import Delivery.Registry
import Mathlib.Data.List.Nodup

/-!
# What an operation leaves alone

All that is done with single breakers of a registry changes the stored breaker of that number and
nothing else; what is done with all of them changes every registered one once. A name that is taken
or given up changes what is found under that name only.
-/

namespace Delivery

/-- The state in an answer, as a registry reads it. -/
def BreakerAnswer.state : BreakerAnswer → CircuitState
  | .stats s => s.state
  | _ => .closed

namespace Registry

variable {listener : Type}

/-! ### Single breakers -/

/-- Replaces the breaker of a number by what is made of it. -/
def alter (r : Registry listener) (number : Nat)
    (f : Breaker (Audience listener) → Breaker (Audience listener)) : Registry listener :=
  { r with breakers := r.breakers.modify number f }

theorem setBreaker_eq_alter {r : Registry listener} {number : Nat}
    {b : Breaker (Audience listener)} (hb : r.breakers[number]? = some b)
    (f : Breaker (Audience listener) → Breaker (Audience listener)) :
    r.setBreaker number (f b) = r.alter number f := by
  simp only [setBreaker, alter, List.modify_eq_set_getElem?, hb, Option.map_eq_map, Option.map_some,
    Option.getD_some]

theorem alter_of_none {r : Registry listener} {number : Nat} (hn : r.breakers[number]? = none)
    (f : Breaker (Audience listener) → Breaker (Audience listener)) : r.alter number f = r := by
  simp only [alter, List.modify_eq_self (List.getElem?_eq_none_iff.mp hn)]

theorem serve_registry (r : Registry listener) (number : Nat) (now : Instant) (q : BreakerRequest) :
    (r.serve number now q).registry = r.alter number fun b => (b.serve now q).breaker := by
  unfold Registry.serve
  split
  · rename_i b hb
    exact setBreaker_eq_alter hb fun b => (b.serve now q).breaker
  · rename_i hn
    exact (alter_of_none hn _).symm

theorem serve_answer (r : Registry listener) (number : Nat) (now : Instant) (q : BreakerRequest) :
    (r.serve number now q).answer =
      (r.breakers[number]?.map fun b => (b.serve now q).answer).getD .noted := by
  unfold Registry.serve
  split
  · rename_i b hb
    simp only [hb, Option.map_some, Option.getD_some]
  · rename_i hn
    simp only [hn, Option.map_none, Option.getD_none]

theorem subscribe_registry (r : Registry listener) (number : Nat) (l : listener) :
    (r.subscribe number l).2 = r.alter number fun b => (b.subscribe (.only l)).2 := by
  unfold Registry.subscribe
  split
  · rename_i b hb
    exact setBreaker_eq_alter hb fun b => (b.subscribe (.only l)).2
  · rename_i hn
    exact (alter_of_none hn _).symm

theorem unsubscribe_registry (r : Registry listener) (number id : Nat) :
    (r.unsubscribe number id).2 = r.alter number fun b => (b.unsubscribe id).2 := by
  unfold Registry.unsubscribe
  split
  · rename_i b hb
    exact setBreaker_eq_alter hb fun b => (b.unsubscribe id).2
  · rename_i hn
    exact (alter_of_none hn _).symm

theorem alter_breakers (r : Registry listener) (number : Nat)
    (f : Breaker (Audience listener) → Breaker (Audience listener)) (m : Nat) :
    (r.alter number f).breakers[m]? =
      if m = number then r.breakers[m]?.map f else r.breakers[m]? := by
  simp only [alter, List.getElem?_modify, Option.map_eq_map]
  by_cases h : m = number
  · subst h
    simp
  · simp [h, Ne.symm h]

/-! ### All breakers -/

/-- Replaces the breakers of a list of numbers one after the other. -/
def alterAll (r : Registry listener) (numbers : List Nat)
    (f : Breaker (Audience listener) → Breaker (Audience listener)) : Registry listener :=
  numbers.foldl (fun r number => r.alter number f) r

theorem alterAll_breakers {numbers : List Nat} (hn : numbers.Nodup) (r : Registry listener)
    (f : Breaker (Audience listener) → Breaker (Audience listener)) (m : Nat) :
    (r.alterAll numbers f).breakers[m]? =
      if m ∈ numbers then r.breakers[m]?.map f else r.breakers[m]? := by
  induction numbers generalizing r with
  | nil => rfl
  | cons number rest ih =>
    obtain ⟨hnot, hrest⟩ := List.nodup_cons.mp hn
    show ((r.alter number f).alterAll rest f).breakers[m]? = _
    rw [ih hrest, alter_breakers]
    by_cases h : m = number
    · subst h
      simp [hnot]
    · simp [h]

theorem alterAll_fixed (r : Registry listener) (numbers : List Nat)
    (f : Breaker (Audience listener) → Breaker (Audience listener)) :
    (r.alterAll numbers f).registered = r.registered ∧
      (r.alterAll numbers f).settings = r.settings ∧
      (r.alterAll numbers f).breakers.length = r.breakers.length := by
  induction numbers generalizing r with
  | nil => exact ⟨rfl, rfl, rfl⟩
  | cons number rest ih =>
    obtain ⟨hregistered, hsettings, hlength⟩ := ih (r.alter number f)
    exact ⟨hregistered, hsettings, hlength.trans (List.length_modify ..)⟩

theorem serveAll_registry (now : Instant) (q : BreakerRequest) (registered : List (String × Nat))
    (r : Registry listener) :
    (serveAll now q registered r).2.1 =
      r.alterAll (registered.map (·.2)) fun b => (b.serve now q).breaker := by
  induction registered generalizing r with
  | nil => rfl
  | cons e rest ih =>
    show (serveAll now q rest (r.serve e.2 now q).registry).2.1 = _
    rw [ih, serve_registry]
    rfl

/-- Breakers with different numbers do not see each other, so each answers as if it came first. -/
theorem serveAll_answers (now : Instant) (q : BreakerRequest) {registered : List (String × Nat)}
    (hn : (registered.map (·.2)).Nodup) (r : Registry listener) :
    (serveAll now q registered r).1 =
      registered.map fun e => (e.1, (r.serve e.2 now q).answer) := by
  induction registered generalizing r with
  | nil => rfl
  | cons e rest ih =>
    obtain ⟨hnot, hrest⟩ := List.nodup_cons.mp hn
    show (e.1, (r.serve e.2 now q).answer) ::
      (serveAll now q rest (r.serve e.2 now q).registry).1 = _
    rw [ih hrest, List.map_cons, serve_registry]
    congr 1
    refine List.map_congr_left fun e' he' => ?_
    have hne : e'.2 ≠ e.2 := fun heq => hnot (List.mem_map.mpr ⟨e', he', heq⟩)
    simp only [serve_answer, alter_breakers, if_neg hne]

theorem resetAll_registry (r : Registry listener) (now : Instant) :
    (r.resetAll now).1 =
      r.alterAll (r.registered.map (·.2)) fun b => (b.serve now .reset).breaker :=
  serveAll_registry now .reset r.registered r

theorem states_registry (r : Registry listener) (now : Instant) :
    (r.states now).2.1 =
      r.alterAll (r.registered.map (·.2)) fun b => (b.serve now .observe).breaker :=
  serveAll_registry now .observe r.registered r

theorem states_answers {r : Registry listener} (hn : (r.registered.map (·.2)).Nodup)
    (now : Instant) :
    (r.states now).1 =
      r.registered.map fun e => (e.1, (r.serve e.2 now .observe).answer.state) := by
  show (serveAll now .observe r.registered r).1.map (fun a => (a.1, a.2.state)) = _
  rw [serveAll_answers now .observe hn, List.map_map]
  rfl

/-! ### Asking by name -/

section Asking

variable {r : Registry listener} {name key : String} {explicit : Option BreakerSettings}

theorem getOrCreate_of_registered {number : Nat} (hk : normaliseName name = .ok key)
    (hl : r.registered.lookup key = some number) :
    r.getOrCreate name explicit = .ok (number, r) := by
  rw [getOrCreate, hk]
  simp only [bind, Except.bind, hl]
  rfl

theorem getOrCreate_of_refused {e : SettingsError} (hk : normaliseName name = .ok key)
    (hl : r.registered.lookup key = none)
    (hb : (build (trimName name) (explicit.getD (r.settings.resolve key)) :
      Except _ (Breaker (Audience listener))) = .error e) :
    r.getOrCreate name explicit = .error (.settings e) := by
  rw [getOrCreate, hk]
  simp only [bind, Except.bind, hl, hb, Except.mapError]

/-- The registry with one more breaker, registered under a name that is free. -/
def enter (r : Registry listener) (key : String) (b : Breaker (Audience listener)) :
    Registry listener :=
  { r with
    breakers := r.breakers ++ [b]
    registered := insertKey key r.breakers.length r.registered }

theorem getOrCreate_of_built {b : Breaker (Audience listener)} (hk : normaliseName name = .ok key)
    (hl : r.registered.lookup key = none)
    (hb : build (trimName name) (explicit.getD (r.settings.resolve key)) = .ok b) :
    r.getOrCreate name explicit = .ok (r.breakers.length, r.enter key b) := by
  rw [getOrCreate, hk]
  simp only [bind, Except.bind, hl, hb, Except.mapError]
  rfl

theorem remove_of_ok (hk : normaliseName name = .ok key) :
    r.remove name = (r.registered.any (·.1 == key),
      { r with registered := r.registered.filter (·.1 != key) }) := by
  rw [remove, hk]

theorem remove_of_error {e : RegistryError} (hk : normaliseName name = .error e) :
    r.remove name = (false, r) := by
  rw [remove, hk]

end Asking

/-! ### Names -/

theorem lookup_cons_eq {α : Type} (e : String × α) (list : List (String × α)) (key : String) :
    (e :: list).lookup key = if key = e.1 then some e.2 else list.lookup key := by
  by_cases h : key = e.1
  · rw [List.lookup_cons, beq_iff_eq.mpr h, if_pos h]
  · rw [List.lookup_cons, beq_eq_false_iff_ne.mpr h, if_neg h]

theorem lookup_insertKey {key : String} {registered : List (String × Nat)}
    (hfree : registered.lookup key = none) (number : Nat) (k : String) :
    (insertKey key number registered).lookup k =
      if k = key then some number else registered.lookup k := by
  induction registered with
  | nil => exact lookup_cons_eq (key, number) [] k
  | cons e rest ih =>
    rw [lookup_cons_eq] at hfree
    by_cases he : key = e.1
    · rw [if_pos he] at hfree
      cases hfree
    · rw [if_neg he] at hfree
      simp only [insertKey]
      split
      · rw [lookup_cons_eq]
      · rw [lookup_cons_eq, ih hfree, lookup_cons_eq]
        by_cases h : k = key
        · subst h
          rw [if_neg he, if_pos rfl, if_pos rfl]
        · rw [if_neg h, if_neg h]

theorem insertKey_perm (key : String) (number : Nat) (registered : List (String × Nat)) :
    (insertKey key number registered).Perm ((key, number) :: registered) := by
  induction registered with
  | nil => exact List.Perm.refl _
  | cons e rest ih =>
    simp only [insertKey]
    split
    · exact List.Perm.refl _
    · exact (ih.cons e).trans (List.Perm.swap ..)

theorem lookup_filter_ne (key : String) (registered : List (String × Nat)) (k : String) :
    (registered.filter (·.1 != key)).lookup k =
      if k = key then none else registered.lookup k := by
  induction registered with
  | nil => simp
  | cons e rest ih =>
    by_cases he : e.1 = key
    · rw [List.filter_cons_of_neg (by simp [he]), ih, lookup_cons_eq, he]
      by_cases h : k = key
      · rw [if_pos h, if_pos h]
      · rw [if_neg h, if_neg h, if_neg h]
    · rw [List.filter_cons_of_pos (by simp [he]), lookup_cons_eq, ih, lookup_cons_eq]
      by_cases h : k = key
      · rw [if_neg (h ▸ Ne.symm he), if_pos h, if_pos h]
      · rw [if_neg h, if_neg h]

/-- Where every name occurs once, what is filed under a name is what is found under it. -/
theorem filter_key_eq_lookup {α : Type} {list : List (String × α)}
    (hkeys : (list.map (·.1)).Nodup) (key : String) :
    list.filter (·.1 == key) = (list.lookup key).toList.map fun a => (key, a) := by
  induction list with
  | nil => rfl
  | cons e rest ih =>
    obtain ⟨hnot, hrest⟩ := List.nodup_cons.mp hkeys
    rw [lookup_cons_eq]
    by_cases he : key = e.1
    · subst he
      have hnone : rest.filter (·.1 == e.1) = [] := by
        simp only [List.filter_eq_nil_iff, beq_iff_eq]
        exact fun e' he' heq => hnot (List.mem_map.mpr ⟨e', he', heq⟩)
      rw [List.filter_cons_of_pos (by simp), hnone, if_pos rfl]
      rfl
    · rw [List.filter_cons_of_neg (by simp [Ne.symm he]), if_neg he, ih hrest]

theorem lookup_of_mem {α : Type} {list : List (String × α)} (hkeys : (list.map (·.1)).Nodup)
    {e : String × α} (he : e ∈ list) : list.lookup e.1 = some e.2 := by
  have hmem : e ∈ list.filter (·.1 == e.1) := List.mem_filter.mpr ⟨he, by simp⟩
  rw [filter_key_eq_lookup hkeys] at hmem
  obtain ⟨a, ha, heq⟩ := List.mem_map.mp hmem
  rw [← heq]
  exact Option.mem_toList.mp ha

/-- A name that is free can be taken once. -/
theorem nodup_insertKey {key : String} {registered : List (String × Nat)}
    (hkeys : (registered.map (·.1)).Nodup) (hfree : registered.lookup key = none) (number : Nat) :
    ((insertKey key number registered).map (·.1)).Nodup := by
  have hnot : key ∉ registered.map (·.1) := fun hmem => by
    obtain ⟨e, he, rfl⟩ := List.mem_map.mp hmem
    rw [lookup_of_mem hkeys he] at hfree
    cases hfree
  exact ((insertKey_perm key number registered).map (·.1)).nodup_iff.mpr
    (List.nodup_cons.mpr ⟨hnot, hkeys⟩)

theorem mem_of_lookup {α : Type} {list : List (String × α)} {key : String} {a : α}
    (h : list.lookup key = some a) : (key, a) ∈ list := by
  obtain ⟨before, behind, rfl, -⟩ := List.lookup_eq_some_iff.mp h
  simp

theorem any_key_eq_lookup {α : Type} (list : List (String × α)) (key : String) :
    list.any (·.1 == key) = (list.lookup key).isSome := by
  induction list with
  | nil => rfl
  | cons e rest ih =>
    rw [List.any_cons, lookup_cons_eq, ih]
    by_cases he : key = e.1
    · simp [he]
    · simp [he, Ne.symm he]

theorem lookup_map {α β : Type} (f : α → β) (list : List (String × α)) (key : String) :
    (list.map fun e => (e.1, f e.2)).lookup key = (list.lookup key).map f := by
  induction list with
  | nil => rfl
  | cons e rest ih =>
    rw [List.map_cons, lookup_cons_eq, lookup_cons_eq, ih]
    split
    · rfl
    · rfl

end Registry

end Delivery
