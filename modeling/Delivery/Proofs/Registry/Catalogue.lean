import Delivery.Proofs.Registry.Requests
import Delivery.Proofs.Unicode.Lowercase

/-!
# A registry is a map over names

A catalogue says for each key which breaker a registry has for it: its number, and the name and the
settings it was made with. It is a function of the requests alone. After any run a registry lists
what the catalogue of the run lists (`Registry.map_over_names`), so it hands out the breaker of a
key to everyone who asks for it, under whatever spelling, until the key is given up.
-/

namespace Delivery

/-! ### Keys -/

theorem keyOf_eq (name : String) : keyOf name =
    if Unicode.trim name.toList = [] then none
    else some (String.ofList (Unicode.lower (Unicode.trim name.toList))) := by
  unfold keyOf normaliseName
  cases Unicode.trim name.toList <;> rfl

/-- A key is filed under itself. -/
theorem keyOf_key {name key : String} (h : keyOf name = some key) : keyOf key = some key := by
  rw [keyOf_eq] at h
  split at h
  · cases h
  · rename_i hne
    cases h
    have hlower := Unicode.lower_ne_nil hne
    rw [keyOf_eq, String.toList_ofList, Unicode.trim_lower_trim, if_neg hlower,
      Unicode.lower_lower]

theorem keyOf_eq_none_iff {name : String} :
    keyOf name = none ↔ ∀ c ∈ name.toList, Unicode.isBlank c = true := by
  rw [keyOf_eq, ← Unicode.trim_eq_nil_iff]
  split
  · simp_all
  · simp_all

/-- Two names are the same but for white space around them and the case of ASCII letters. -/
def SpeltAlike (name other : String) : Prop :=
  ∃ front core back front' core' back' : List Char,
    name.toList = front ++ (core ++ back) ∧ other.toList = front' ++ (core' ++ back') ∧
      core.map Char.toLower = core'.map Char.toLower ∧
      ∀ c ∈ front ++ back ++ (front' ++ back'), Unicode.isBlank c = true

theorem keyOf_of_speltAlike {name other : String} (h : SpeltAlike name other) :
    keyOf name = keyOf other := by
  obtain ⟨front, core, back, front', core', back', hname, hother, hsame, hblank⟩ := h
  simp only [List.mem_append] at hblank
  have htrim : Unicode.trim name.toList = Unicode.trim core := by
    rw [hname]
    exact Unicode.trim_pad (fun c hc => hblank c (by simp [hc]))
      (fun c hc => hblank c (by simp [hc])) core
  have htrim' : Unicode.trim other.toList = Unicode.trim core' := by
    rw [hother]
    exact Unicode.trim_pad (fun c hc => hblank c (by simp [hc]))
      (fun c hc => hblank c (by simp [hc])) core'
  have hmap : (Unicode.trim core).map Char.toLower = (Unicode.trim core').map Char.toLower := by
    rw [← Unicode.trim_map, hsame, Unicode.trim_map]
  have hnil : Unicode.trim core = [] ↔ Unicode.trim core' = [] := by
    rw [← List.map_eq_nil_iff, hmap, List.map_eq_nil_iff]
  have hlower : Unicode.lower (Unicode.trim core) = Unicode.lower (Unicode.trim core') := by
    rw [← Unicode.lower_map, hmap, Unicode.lower_map]
  rw [keyOf_eq, keyOf_eq, htrim, htrim', hlower]
  simp only [hnil]

/-! ### Settings -/

namespace RegistrySettings

/-- The settings that are given for a key, under whatever spelling; of two the later counts. -/
def override? (s : RegistrySettings) (key : String) : Option BreakerSettings :=
  (s.overrides.filter fun o => keyOf o.1 == some key).getLast?.map (·.2)

/-- The settings of a new breaker: the ones asked for, or those for its key, or the common ones. -/
def chosen (s : RegistrySettings) (key : String) (explicit : Option BreakerSettings) :
    BreakerSettings :=
  explicit.getD ((s.override? key).getD s.defaults)

theorem lookup_setOverride (overrides : List (String × BreakerSettings)) (name : String)
    (b : BreakerSettings) (key : String) :
    (setOverride overrides name b).lookup key =
      if key = name then some b else overrides.lookup key := by
  have hmap : (overrides.map fun o => if o.1 == name then (name, b) else o).lookup key =
      if key = name ∧ overrides.any (·.1 == name) then some b else overrides.lookup key := by
    induction overrides with
    | nil => simp
    | cons o rest ih =>
      rw [List.map_cons, Registry.lookup_cons_eq, ih, Registry.lookup_cons_eq, List.any_cons]
      by_cases ho : o.1 = name
      · subst ho
        by_cases hkey : key = o.1
        · simp [hkey]
        · simp [hkey]
      · have hfirst : (o.1 == name) = false := beq_eq_false_iff_ne.mpr ho
        simp only [hfirst, Bool.false_eq_true, if_false, Bool.false_or]
        by_cases hkey : key = name
        · simp [hkey, Ne.symm ho]
        · simp [hkey]
  unfold setOverride
  split
  · rename_i hany
    rw [hmap]
    simp [hany]
  · rename_i hany
    by_cases hkey : key = name
    · subst hkey
      have hnone : overrides.lookup key = none := by
        rw [Registry.any_key_eq_lookup] at hany
        rwa [Option.not_isSome_iff_eq_none] at hany
      rw [List.lookup_append, hnone, if_pos rfl]
      simp
    · rw [List.lookup_append, if_neg hkey]
      simp [Registry.lookup_cons_eq, hkey]

/-- What is found under a key after some more overrides: the last of them for the key, or what was
found before. -/
theorem lookup_normalised {overrides done last : List (String × BreakerSettings)}
    (h : overrides.foldlM takeIn done = .ok last) (key : String) : last.lookup key =
      ((overrides.filter fun o => keyOf o.1 == some key).getLast?.map (·.2)).or
        (done.lookup key) := by
  induction overrides generalizing done with
  | nil =>
    cases h
    rfl
  | cons o rest ih =>
    rw [List.foldlM_cons, bind_eq_ok_iff] at h
    obtain ⟨next, hnext, h⟩ := h
    obtain ⟨-, name, hname, rfl⟩ := takeIn_eq_ok_iff.mp hnext
    have hkey : keyOf o.1 = some name := normaliseName_eq_ok_iff.mp hname
    rw [ih h, lookup_setOverride]
    by_cases heq : key = name
    · subst heq
      rw [if_pos rfl, List.filter_cons_of_pos (by simp [hkey]), List.getLast?_cons]
      cases (rest.filter fun o => keyOf o.1 == some key).getLast? <;> rfl
    · rw [if_neg heq, List.filter_cons_of_neg (by simp [hkey, Ne.symm heq])]

theorem resolve_normalise {s s' : RegistrySettings} (h : s.normalise = .ok s') (key : String) :
    s'.resolve key = (s.override? key).getD s.defaults := by
  obtain ⟨-, hsame, hover⟩ := normalise_eq_ok_iff.mp h
  rw [resolve, lookup_normalised hover, hsame, override?, List.lookup_nil, Option.or_none]

end RegistrySettings

/-! ### Catalogues -/

/-- A breaker of a registry: its number, and the name and the settings it was made with. -/
structure Listing where
  number : Nat
  label : String
  settings : BreakerSettings

/-- How many breakers a registry has made, and which it lists under each key. -/
structure Catalogue where
  made : Nat := 0
  listed : String → Option Listing := fun _ => none

namespace Catalogue

variable {listener : Type}

def enter (C : Catalogue) (key label : String) (s : BreakerSettings) : Catalogue where
  made := C.made + 1
  listed k := if k = key then some ⟨C.made, label, s⟩ else C.listed k

def withdraw (C : Catalogue) (key : String) : Catalogue :=
  { C with listed := fun k => if k = key then none else C.listed k }

/-- The catalogue after a request. A breaker is listed when it is asked for under a key that lists
none and its settings have no fault. -/
def note (s : RegistrySettings) (C : Catalogue) : RegistryRequest listener → Catalogue
  | .getOrCreate name explicit =>
    match keyOf name with
    | none => C
    | some key =>
      match C.listed key, (s.chosen key explicit).fault? with
      | none, none => C.enter key (trimName name) (s.chosen key explicit)
      | _, _ => C
  | .remove name =>
    match keyOf name with
    | none => C
    | some key => C.withdraw key
  | _ => C

def after (s : RegistrySettings) (C : Catalogue) (run : RegistryLog listener) : Catalogue :=
  run.foldl (fun C e => C.note s e.2) C

end Catalogue

/-! ### What a registry lists -/

/-- A registry lists what the catalogue lists. -/
structure Registry.Lists {listener : Type} (s : RegistrySettings) (C : Catalogue)
    (r : Registry listener) : Prop where
  settings : ∀ key, r.settings.resolve key = (s.override? key).getD s.defaults
  made : C.made = r.breakers.length
  found : ∀ key, r.registered.lookup key = (C.listed key).map (·.number)
  single : (r.registered.map (·.1)).Nodup
  own : (r.registered.map (·.2)).Nodup
  normal : ∀ key ∈ r.registered.map (·.1), keyOf key = some key
  stored : ∀ key e, C.listed key = some e → ∃ b, r.breakers[e.number]? = some b ∧
    b.name = e.label ∧ b.settings? = if e.settings.enabled then some e.settings else none

namespace Registry.Lists

variable {listener : Type} {s : RegistrySettings} {C : Catalogue} {r : Registry listener}
  {name key : String}

theorem chosen_eq (h : r.Lists s C) (explicit : Option BreakerSettings) (key : String) :
    explicit.getD (r.settings.resolve key) = s.chosen key explicit := by
  rw [h.settings, RegistrySettings.chosen]

theorem listed_eq_none (h : r.Lists s C) :
    C.listed key = none ↔ r.registered.lookup key = none := by
  rw [h.found, Option.map_eq_none_iff]

theorem lt_of_mem (h : r.Lists s C) {n : Nat} (hn : n ∈ r.registered.map (·.2)) :
    n < r.breakers.length := by
  obtain ⟨⟨k, n⟩, hmem, rfl⟩ := List.mem_map.mp hn
  have hlookup : r.registered.lookup k = some n := lookup_of_mem h.single hmem
  rw [h.found] at hlookup
  obtain ⟨e, he, rfl⟩ := Option.map_eq_some_iff.mp hlookup
  obtain ⟨b, hb, -⟩ := h.stored k e he
  exact (List.getElem?_eq_some_iff.mp hb).1

/-! ### What a request keeps -/

theorem enter (h : r.Lists s C) (hk : keyOf name = some key)
    (hl : r.registered.lookup key = none) (label : String) (chosen : BreakerSettings) :
    (r.enter key (Breaker.newborn label chosen)).Lists s (C.enter key label chosen) where
  settings := h.settings
  made := by
    show C.made + 1 = (r.breakers ++ [_]).length
    rw [h.made, List.length_append, List.length_singleton]
  found k := by
    show (insertKey key r.breakers.length r.registered).lookup k = _
    rw [lookup_insertKey hl]
    simp only [Catalogue.enter]
    split
    · exact congrArg some h.made.symm
    · exact h.found k
  single := nodup_insertKey h.single hl _
  own := by
    have hnot : r.breakers.length ∉ r.registered.map (·.2) := fun hmem =>
      Nat.lt_irrefl _ (h.lt_of_mem hmem)
    exact ((insertKey_perm ..).map _).nodup_iff.mpr (List.nodup_cons.mpr ⟨hnot, h.own⟩)
  normal k hmem := by
    have hperm := (insertKey_perm key r.breakers.length r.registered).map (·.1)
    rcases List.mem_cons.mp (hperm.mem_iff.mp hmem) with rfl | hold
    · exact keyOf_key hk
    · exact h.normal k hold
  stored k e he := by
    simp only [Catalogue.enter] at he
    split at he
    · cases he
      refine ⟨Breaker.newborn label chosen, ?_, Breaker.newborn_name .., Breaker.newborn_settings? ..⟩
      show (r.breakers ++ [_])[C.made]? = _
      rw [h.made, List.getElem?_concat_length]
    · obtain ⟨b, hb, hname, hsettings⟩ := h.stored k e he
      refine ⟨b, ?_, hname, hsettings⟩
      show (r.breakers ++ [_])[e.number]? = _
      rw [List.getElem?_append_left (List.getElem?_eq_some_iff.mp hb).1, hb]

theorem withdraw (h : r.Lists s C) (key : String) :
    (r.withdraw key).Lists s (C.withdraw key) where
  settings := h.settings
  made := h.made
  found k := by
    show (r.registered.filter (·.1 != key)).lookup k = _
    rw [lookup_filter_ne]
    simp only [Catalogue.withdraw]
    split
    · rfl
    · exact h.found k
  single := h.single.sublist (List.filter_sublist.map _)
  own := h.own.sublist (List.filter_sublist.map _)
  normal k hmem := h.normal k ((List.filter_sublist.map _).subset hmem)
  stored k e he := by
    simp only [Catalogue.withdraw] at he
    split at he
    · cases he
    · exact h.stored k e he

theorem perform (h : r.Lists s C) (now : Instant) (d : BreakerDeed listener) :
    (r.perform now d).Lists s C where
  settings := h.settings
  made := h.made.trans (List.length_modify ..).symm
  found := h.found
  single := h.single
  own := h.own
  normal := h.normal
  stored k e he := by
    obtain ⟨b, hb, hname, hsettings⟩ := h.stored k e he
    have hat := r.alter_breakers d.1 (Breaker.perform now d.2) e.number
    rw [hb] at hat
    split at hat
    · exact ⟨b.perform now d.2, hat, (b.perform_name now d.2).trans hname,
        (b.perform_settings? now d.2).trans hsettings⟩
    · exact ⟨b, hat, hname, hsettings⟩

theorem performAll (h : r.Lists s C) (now : Instant) (deeds : List (BreakerDeed listener)) :
    (r.performAll now deeds).Lists s C :=
  performAll_keeps (P := (·.Lists s C)) h fun _ h d _ => h.perform now d

theorem getOrCreate (h : r.Lists s C) (now : Instant) (name : String)
    (explicit : Option BreakerSettings) :
    (r.carryOut now (.getOrCreate name explicit)).registry.Lists s
      (C.note s (.getOrCreate name explicit : RegistryRequest listener)) := by
  have hgot := r.got name explicit now
  generalize (r.carryOut now (.getOrCreate name explicit)).answer = answer,
    (r.carryOut now (.getOrCreate name explicit)).registry = r' at hgot
  cases hgot with
  | blank hk =>
    simp only [Catalogue.note, hk]
    exact h
  | known key n hk hl =>
    have hlisted : C.listed key ≠ none := fun hnone => by
      rw [h.listed_eq_none.mp hnone] at hl
      cases hl
    obtain ⟨e, he⟩ := Option.ne_none_iff_exists'.mp hlisted
    simp only [Catalogue.note, hk, he]
    exact h
  | unusable key e hk hl hfault =>
    rw [h.chosen_eq] at hfault
    simp only [Catalogue.note, hk, hfault, h.listed_eq_none.mpr hl]
    exact h
  | made key hk hl hfault =>
    rw [h.chosen_eq] at hfault ⊢
    simp only [Catalogue.note, hk, hfault, h.listed_eq_none.mpr hl]
    exact h.enter hk hl _ _

theorem remove (h : r.Lists s C) (now : Instant) (name : String) :
    (r.carryOut now (.remove name)).registry.Lists s
      (C.note s (.remove name : RegistryRequest listener)) := by
  show (r.remove name).2.Lists s _
  rcases r.remove_cases name with ⟨hk, heq⟩ | ⟨key, hk, heq⟩
  · simp only [heq, Catalogue.note, hk]
    exact h
  · simp only [heq, Catalogue.note, hk]
    exact h.withdraw key

theorem carryOut (h : r.Lists s C) (now : Instant) (q : RegistryRequest listener) :
    (r.carryOut now q).registry.Lists s (C.note s q) := by
  cases q with
  | getOrCreate name explicit => exact h.getOrCreate now name explicit
  | remove name => exact h.remove now name
  | get name => exact h
  | names => exact h
  | size => exact h
  | subscribeAll l => exact ⟨h.settings, h.made, h.found, h.single, h.own, h.normal, h.stored⟩
  | unsubscribeAll id => exact ⟨h.settings, h.made, h.found, h.single, h.own, h.normal, h.stored⟩
  | _ =>
    rw [carryOut_deeds _ _ rfl]
    exact h.performAll now _

theorem after (h : r.Lists s C) (run : RegistryLog listener) :
    (r.after run).Lists s (C.after s run) := by
  induction run generalizing r C with
  | nil => exact h
  | cons e rest ih => exact ih (h.carryOut e.1 e.2)

theorem of_create (h : Registry.create s = .ok r) : r.Lists s {} := by
  obtain ⟨s', hs, rfl⟩ := create_eq_ok_iff.mp h
  exact {
    settings := RegistrySettings.resolve_normalise hs
    made := rfl
    found := fun _ => rfl
    single := List.nodup_nil
    own := List.nodup_nil
    normal := nofun
    stored := nofun }

end Registry.Lists

/-! ### A map over names -/

/-- What it means that a registry is a map from names, in any spelling, to breakers. A breaker is
known by its number. -/
structure Registry.IsMap {listener : Type} (s : RegistrySettings) (C : Catalogue)
    (r : Registry listener) : Prop where
  -- Every key is registered once, and all listings show the keys that are.
  single : r.names.Nodup
  names : ∀ key, key ∈ r.names ↔ (C.listed key).isSome = true
  size : r.size = r.names.length
  states : ∀ now, (r.states now).1.map (·.1) = r.names
  -- A key has the breaker that the run has made for it, with the name and the settings of its
  -- first caller.
  get : ∀ name, r.get? name = ((keyOf name).bind C.listed).map (·.number)
  stored : ∀ key e, C.listed key = some e → ∃ b, r.breakers[e.number]? = some b ∧
    b.name = e.label ∧ b.settings? = if e.settings.enabled then some e.settings else none
  -- Who asks for a registered breaker gets it, whatever settings come with the request.
  known : ∀ name explicit n, r.get? name = some n → r.getOrCreate name explicit = .ok (n, r)
  -- Otherwise a new one is made of the settings that are chosen for the key, under the trimmed name.
  made : ∀ name explicit key, keyOf name = some key → r.get? name = none →
    (s.chosen key explicit).fault? = none → ∃ b r', r.getOrCreate name explicit = .ok (C.made, r') ∧
      r'.breakers = r.breakers ++ [b] ∧ b.name = trimName name ∧
      b.settings? = (if (s.chosen key explicit).enabled then some (s.chosen key explicit) else none) ∧
      ∀ other, r'.get? other = if keyOf other = some key then some C.made else r.get? other
  -- Settings with a fault and blank names are refused, and a refusal leaves the registry as it was.
  unusable : ∀ name explicit key e, keyOf name = some key → r.get? name = none →
    (s.chosen key explicit).fault? = some e → r.getOrCreate name explicit = .error (.settings e)
  blank : ∀ name, (∀ c ∈ name.toList, Unicode.isBlank c = true) → r.get? name = none ∧
    r.remove name = (false, r) ∧ ∀ explicit, r.getOrCreate name explicit = .error .blankName
  refused : ∀ now name explicit e,
    (r.carryOut now (.getOrCreate name explicit)).answer = .refused e →
      (r.carryOut now (.getOrCreate name explicit)).registry = r
  -- A name that is removed was found before and is not found afterwards; no other key is concerned.
  removed : ∀ name, (r.remove name).1 = (r.get? name).isSome ∧
    ∀ other, (r.remove name).2.get? other =
      if keyOf other = keyOf name then none else r.get? other
  -- Spelling does not matter.
  alike : ∀ name other, SpeltAlike name other → r.get? name = r.get? other ∧
    r.remove name = r.remove other ∧ ∀ explicit n r', r.getOrCreate name explicit = .ok (n, r') →
      r'.get? other = some n ∧ ∀ explicit', r'.getOrCreate other explicit' = .ok (n, r')
  -- Every listed key is a name of its own breaker.
  listed : ∀ key ∈ r.names, ∃ n, r.get? key = some n ∧
    (∀ explicit, r.getOrCreate key explicit = .ok (n, r)) ∧ (r.remove key).1 = true ∧
    (r.remove key).2.get? key = none ∧ ∀ other ∈ r.names, r.get? other = some n → other = key

namespace Registry

variable {listener : Type} {s : RegistrySettings} {C : Catalogue} {r r' : Registry listener}
  {name other key : String} {n : Nat}

theorem lookup_of_get? (h : r.get? name = some n) :
    ∃ key, keyOf name = some key ∧ r.registered.lookup key = some n := by
  rw [get?_eq] at h
  exact Option.bind_eq_some_iff.mp h

theorem lookup_of_get?_none (hk : keyOf name = some key) (h : r.get? name = none) :
    r.registered.lookup key = none := by
  rwa [get?_eq, hk] at h

theorem get?_enter (hl : r.registered.lookup key = none) (b : Breaker (Audience listener))
    (other : String) : (r.enter key b).get? other =
      if keyOf other = some key then some r.breakers.length else r.get? other := by
  rw [get?_eq, get?_eq]
  cases hother : keyOf other with
  | none => rfl
  | some k =>
    show (insertKey key r.breakers.length r.registered).lookup k = _
    rw [lookup_insertKey hl]
    simp only [Option.some.injEq]
    rfl

theorem get?_withdraw (r : Registry listener) (key other : String) :
    (r.withdraw key).get? other = if keyOf other = some key then none else r.get? other := by
  rw [get?_eq, get?_eq]
  cases hother : keyOf other with
  | none => rfl
  | some k =>
    show (r.registered.filter (·.1 != key)).lookup k = _
    rw [lookup_filter_ne]
    simp only [Option.some.injEq]
    rfl

/-- Who gets a breaker has left it registered under the key of the name. -/
theorem lookup_of_getOrCreate {explicit : Option BreakerSettings}
    (h : r.getOrCreate name explicit = .ok (n, r')) :
    ∃ key, keyOf name = some key ∧ r'.registered.lookup key = some n := by
  have hgot := r.got name explicit 0
  simp only [carryOut, h] at hgot
  cases hgot with
  | known key n hk hl => exact ⟨key, hk, hl⟩
  | made key hk hl hfault =>
    refine ⟨key, hk, ?_⟩
    show (insertKey key _ _).lookup key = _
    rw [lookup_insertKey hl, if_pos rfl]

theorem remove_of_keyOf_eq (h : keyOf name = keyOf other) (r : Registry listener) :
    r.remove name = r.remove other := by
  rcases r.remove_cases name with ⟨hk, heq⟩ | ⟨key, hk, heq⟩ <;>
    rcases r.remove_cases other with ⟨hk', heq'⟩ | ⟨key', hk', heq'⟩
  · rw [heq, heq']
  · cases (hk.symm.trans h).trans hk'
  · cases (hk.symm.trans h).trans hk'
  · cases (hk.symm.trans h).trans hk'
    rw [heq, heq']

theorem get?_remove (r : Registry listener) (name : String) :
    (r.remove name).1 = (r.get? name).isSome ∧ ∀ other, (r.remove name).2.get? other =
      if keyOf other = keyOf name then none else r.get? other := by
  rcases r.remove_cases name with ⟨hk, heq⟩ | ⟨key, hk, heq⟩
  · refine ⟨by rw [heq, get?_eq, hk]; rfl, fun other => ?_⟩
    rw [heq, hk]
    split
    · rename_i hother
      rw [get?_eq, hother]
      rfl
    · rfl
  · refine ⟨by rw [heq, get?_eq, hk]; rfl, fun other => ?_⟩
    rw [heq, hk]
    exact r.get?_withdraw key other

namespace Lists

theorem known (h : r.get? name = some n) (explicit : Option BreakerSettings) :
    r.getOrCreate name explicit = .ok (n, r) := by
  obtain ⟨key, hk, hl⟩ := lookup_of_get? h
  exact getOrCreate_known hk hl explicit

theorem listed (h : r.Lists s C) (hmem : key ∈ r.names) : ∃ n, r.get? key = some n ∧
    ∀ other ∈ r.names, r.get? other = some n → other = key := by
  have hentry : ∀ k ∈ r.names, ∃ n, (k, n) ∈ r.registered ∧ r.get? k = some n := by
    intro k hk
    obtain ⟨⟨k, n⟩, hin, rfl⟩ := List.mem_map.mp hk
    refine ⟨n, hin, ?_⟩
    rw [get?_eq, h.normal k hk]
    exact lookup_of_mem h.single hin
  obtain ⟨n, hin, hn⟩ := hentry key hmem
  refine ⟨n, hn, fun other hother hsame => ?_⟩
  obtain ⟨m, hin', hm⟩ := hentry other hother
  obtain rfl : m = n := Option.some.inj (hm.symm.trans hsame)
  exact congrArg Prod.fst (List.inj_on_of_nodup_map h.own hin' hin rfl)

theorem isMap (h : r.Lists s C) : r.IsMap s C where
  single := h.single
  names key := by
    rw [← Option.isSome_map (f := (·.number)), ← h.found, ← any_key_eq_lookup, List.any_eq_true,
      names, List.mem_map]
    simp
  size := (List.length_map ..).symm
  states now := by
    rw [states_answers h.own, List.map_map]
    rfl
  get name := by
    rw [get?_eq]
    cases keyOf name with
    | none => rfl
    | some key => exact h.found key
  stored := h.stored
  known name explicit n hn := known hn explicit
  made name explicit key hk hnone hfault := by
    have hl := lookup_of_get?_none hk hnone
    have hmade : r.getOrCreate name explicit = _ :=
      getOrCreate_made hk hl (by rwa [h.chosen_eq])
    rw [h.chosen_eq] at hmade
    refine ⟨_, _, h.made ▸ hmade, rfl, Breaker.newborn_name .., Breaker.newborn_settings? .., ?_⟩
    rw [h.made]
    exact get?_enter hl _
  unusable name explicit key e hk hnone hfault :=
    getOrCreate_unusable hk (lookup_of_get?_none hk hnone) (by rwa [h.chosen_eq])
  blank name hblank := by
    have hk := keyOf_eq_none_iff.mpr hblank
    refine ⟨by rw [get?_eq, hk]; rfl, ?_, getOrCreate_blank hk⟩
    exact remove_of_error (normaliseName_of_keyOf_eq_none hk)
  refused now name explicit e hrefused := by
    have hgot := r.got name explicit now
    rw [hrefused] at hgot
    generalize (r.carryOut now (.getOrCreate name explicit)).registry = r' at hgot
    cases hgot with
    | blank hk => rfl
    | unusable key e hk hl hfault => rfl
  removed := r.get?_remove
  alike name other halike := by
    have hkey := keyOf_of_speltAlike halike
    refine ⟨by rw [get?_eq, get?_eq, hkey], remove_of_keyOf_eq hkey r, fun explicit n r' hgot => ?_⟩
    obtain ⟨key, hk, hl⟩ := lookup_of_getOrCreate hgot
    have hother : r'.get? other = some n := by
      rw [get?_eq, ← hkey, hk]
      exact hl
    exact ⟨hother, known hother⟩
  listed key hmem := by
    obtain ⟨n, hn, hown⟩ := h.listed hmem
    obtain ⟨hfound, hgone⟩ := r.get?_remove key
    refine ⟨n, hn, known hn, ?_, ?_, hown⟩
    · rw [hfound, hn]
      rfl
    · rw [hgone, if_pos rfl]

end Lists

/-- After any run a registry is a map over names: it has for each key what the requests of the run
have made of it. -/
theorem map_over_names {settings : RegistrySettings} {r : Registry listener}
    (h : create settings = .ok r) (run : RegistryLog listener) :
    (r.after run).IsMap settings (({} : Catalogue).after settings run) :=
  ((Lists.of_create h).after run).isMap

/-- Settings that cannot be used, a spelling of an override, a final sigma, and a key that is given
up and taken again. -/
def spellings : RegistryLog Nat :=
  [(0, .getOrCreate "Ab " (some { failureThreshold := 0 })),
   (1, .getOrCreate "ΟΣ" (some { enabled := false, failureThreshold := 0 })),
   (2, .getOrCreate "AB" none), (3, .getOrCreate " ab" (some { failureThreshold := 0 })),
   (4, .remove " οΣ "), (5, .getOrCreate "Ος" none)]

theorem map_over_names_spellings :
    let settings : RegistrySettings := { overrides := [(" aB", { failureThreshold := 2 })] }
    let r : Registry Nat := { settings := { overrides := [("ab", { failureThreshold := 2 })] } }
    create settings = .ok r ∧
      (r.after spellings).IsMap settings (({} : Catalogue).after settings spellings) ∧
      (r.after spellings).names = ["ab", "ος"] ∧
      (r.after spellings).get? "aB " = some 1 ∧ (r.after spellings).get? "οΣ" = some 2 ∧
      (r.after spellings).breakers.map (·.name) = ["ΟΣ", "AB", "Ος"] := by
  intro settings r
  have hcreate : create settings = .ok r := by
    have hkey : keyOf " aB" = some "ab" := by decide +kernel
    have hname : normaliseName " aB" = .ok "ab" := normaliseName_eq_ok_iff.mpr hkey
    simp only [create, RegistrySettings.normalise, settings, List.foldlM_cons, List.foldlM_nil,
      hname]
    rfl
  refine ⟨hcreate, map_over_names hcreate spellings, ?_⟩
  decide +kernel

end Registry

end Delivery
