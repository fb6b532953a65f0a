import Delivery.Proofs.Relational.Placeholders
import Delivery.Proofs.Relational.Selection

/-!
# Queries

The database answers a query with the dead letters that a store in memory answers, in the same order
and cut to the same window, and it counts the same number. The order of the rows in the table does
not matter: dead letters have different ids, and the texts of ids, byte by byte, are in the order of
the ids.
-/

namespace Delivery

/-- The table has the records of these slots, in any order. Their dead letters have different ids
and can be stored, and there are no more of them than the database can count. -/
structure Records.Represent (records : Records) (start : Int) (slots : List Slot) : Prop where
  perm : records.Perm (slots.map (Slot.record start))
  ids : (slots.map (·.entry.id)).Nodup
  storable : ∀ s ∈ slots, s.entry.Storable
  counted : slots.length ≤ Value.bigLimit

/-! ### Order -/

namespace Slot

variable {start : Int} {a b : Slot} {slots : List Slot}

def precedes (a b : Slot) : Bool := a.entry.id.value ≤ b.entry.id.value

theorem key_record (start : Int) (s : Slot) : (s.record start).key = octets s.entry.id.text := rfl

theorem precedes_record (ha : a.entry.Storable) (hb : b.entry.Storable) :
    (a.record start).precedes (b.record start) = a.precedes b := by
  rw [Record.precedes, key_record, key_record, precedes]
  exact decide_eq_decide.mpr (EntryId.octets_text_le_iff ha.id hb.id)

theorem eq_of_precedes (hids : (slots.map (·.entry.id)).Nodup) (ha : a ∈ slots) (hb : b ∈ slots)
    (hab : a.precedes b = true) (hba : b.precedes a = true) : a = b := by
  have hle : a.entry.id.value ≤ b.entry.id.value := of_decide_eq_true hab
  have hge : b.entry.id.value ≤ a.entry.id.value := of_decide_eq_true hba
  have hvalue : a.entry.id.value = b.entry.id.value := Nat.le_antisymm hle hge
  have hid : a.entry.id = b.entry.id := congrArg EntryId.mk hvalue
  exact List.inj_on_of_nodup_map hids ha hb hid

theorem pairwise_precedes (records : Records) :
    (records.mergeSort Record.precedes).Pairwise fun a b => a.precedes b = true := by
  refine List.pairwise_mergeSort (fun a b c hab hbc => ?_) (fun a b => ?_) records
  · exact decide_eq_true (List.le_trans (of_decide_eq_true hab) (of_decide_eq_true hbc))
  · simpa [Record.precedes] using List.le_total a.key b.key

/-- Records in the order of their keys are the records of slots in the order of their ids. -/
theorem mergeSort_records {records : Records} (hids : (slots.map (·.entry.id)).Nodup)
    (hstorable : ∀ s ∈ slots, s.entry.Storable)
    (hperm : records.Perm (slots.map (Slot.record start))) :
    records.mergeSort Record.precedes = (slots.mergeSort precedes).map (Slot.record start) := by
  have hslots : (slots.mergeSort precedes).map (Slot.record start) =
      (slots.map (Slot.record start)).mergeSort Record.precedes :=
    List.map_mergeSort fun a ha b hb =>
      (precedes_record (hstorable a ha) (hstorable b hb)).symm
  have hsame : (records.mergeSort Record.precedes).Perm
      ((slots.map (Slot.record start)).mergeSort Record.precedes) :=
    (List.mergeSort_perm _ _).trans (hperm.trans (List.mergeSort_perm _ _).symm)
  rw [hslots]
  refine hsame.eq_of_pairwise (fun r r' hr hr' hrr' hr'r => ?_) (pairwise_precedes _)
    (pairwise_precedes _)
  obtain ⟨a, ha, rfl⟩ := List.mem_map.mp (hperm.subset (List.mem_mergeSort.mp hr))
  obtain ⟨b, hb, rfl⟩ := List.mem_map.mp (List.mem_mergeSort.mp hr')
  rw [precedes_record (hstorable a ha) (hstorable b hb)] at hrr'
  rw [precedes_record (hstorable b hb) (hstorable a ha)] at hr'r
  rw [eq_of_precedes hids ha hb hrr' hr'r]

theorem inOrder_map (slots : List Slot) : MemoryStore.inOrder (slots.map (·.entry)) =
    (slots.mergeSort precedes).map (·.entry) :=
  (List.map_mergeSort (f := fun s : Slot => s.entry) fun _ _ _ _ => rfl).symm

end Slot

/-! ### Windows -/

namespace Filter

variable {α β : Type}

theorem map_window (f : Filter) (g : α → β) (xs : List α) :
    f.window (xs.map g) = (f.window xs).map g := by
  unfold window
  cases f.limit <;> simp

/-- A window with bounds that a column holds is the same on all lists that are not too long. -/
theorem window_bound (f : Filter) {rs : Records} (h : rs.length ≤ Value.bigLimit) :
    Records.window (f.limit.map (min · Value.bigLimit))
      (if 0 < f.skip then some (min f.skip Value.bigLimit) else none) rs = f.window rs := by
  have hskip : rs.drop ((if 0 < f.skip then some (min f.skip Value.bigLimit) else none).getD 0) =
      rs.drop f.skip := by
    split
    · rw [Option.getD_some]
      rcases Nat.le_total f.skip Value.bigLimit with hle | hle
      · rw [Nat.min_eq_left hle]
      · rw [Nat.min_eq_right hle, List.drop_of_length_le h,
          List.drop_of_length_le (Nat.le_trans h hle)]
    · rename_i hzero
      rw [Option.getD_none, Nat.eq_zero_of_not_pos hzero]
  have htake (n : Nat) : (rs.drop f.skip).take (min n Value.bigLimit) =
      (rs.drop f.skip).take n := by
    have hlength : (rs.drop f.skip).length ≤ Value.bigLimit :=
      Nat.le_trans (by simp) h
    rcases Nat.le_total n Value.bigLimit with hle | hle
    · rw [Nat.min_eq_left hle]
    · rw [Nat.min_eq_right hle, List.take_of_length_le hlength,
        List.take_of_length_le (Nat.le_trans hlength hle)]
  unfold Records.window window
  rw [hskip]
  cases f.limit with
  | none => rfl
  | some n => exact htake n

end Filter

/-! ### Answers -/

namespace Statement

variable (now : Timestamp) (f : Filter)

theorem parameters_query : (query f).parameters =
    filterValues f ++ ((f.limit.map Value.big).toList ++
      (if 0 < f.skip then some (Value.big f.skip) else none).toList) := by
  rw [query, List.append_assoc]

theorem getElem?_numbered (n : Nat) (cs : List Criterion) (i : Nat) :
    (numbered n cs)[i]? =
      cs[i]?.map fun c => .compare c.2.1 (.column c.1) (.parameter (n + i)) := by
  induction cs generalizing n i with
  | nil => rfl
  | cons c cs ih =>
    cases i with
    | zero => rfl
    | succ i =>
      rw [numbered, List.getElem?_cons_succ, List.getElem?_cons_succ, ih, Nat.add_right_comm]
      rfl

/-- The condition of a criterion refers to the value of that criterion. -/
theorem condition_and_value {f : Filter} {i : Nat} {c : Criterion}
    (h : (criteria f)[i]? = some c) :
    (conditions f)[i + 1]? = some (.compare c.2.1 (.column c.1) (.parameter (i + 1))) ∧
      (query f).parameters[i]? = some c.2.2 ∧ (count f).parameters[i]? = some c.2.2 := by
  have hvalue : (filterValues f)[i]? = some c.2.2 := by
    rw [filterValues, List.getElem?_map, h]
    rfl
  refine ⟨?_, ?_, hvalue⟩
  · rw [conditions, List.getElem?_cons_succ, getElem?_numbered, h, Nat.add_comm 1 i]
    rfl
  · rw [parameters_query]
    exact List.getElem?_append_left (List.getElem?_eq_some_iff.mp hvalue).1 ▸ hvalue

theorem length_filterValues : (filterValues f).length = (criteria f).length := by
  simp [filterValues]

theorem count?_big (parameters : List Value) (n number : Nat)
    (h : parameters[number]? = some (.big n)) :
    (Term.parameter (number + 1)).count? now parameters = some (min n Value.bigLimit) := by
  have hvalue : parameters.getD number .null = .number (min n Value.bigLimit) := by
    rw [List.getD_eq_getElem?_getD, h]
    rfl
  rw [Term.count?, Term.value, Nat.add_sub_cancel, hvalue]
  show some (min (n : Int) Value.bigLimit).toNat = _
  congr 1
  omega

theorem limit_query : (if limited f then some (Term.parameter ((criteria f).length + 1)) else
    none).bind (·.count? now (query f).parameters) = f.limit.map (min · Value.bigLimit) := by
  unfold limited
  cases hlimit : f.limit with
  | none => rfl
  | some n =>
    refine count?_big now _ n _ ?_
    rw [parameters_query, ← length_filterValues, hlimit]
    simp

theorem offset_query : (if skips f then some (Term.parameter
    ((criteria f).length + (if limited f then 1 else 0) + 1)) else none).bind
      (·.count? now (query f).parameters) =
      if 0 < f.skip then some (min f.skip Value.bigLimit) else none := by
  by_cases hskip : 0 < f.skip
  · have hskips : skips f = true := decide_eq_true hskip
    rw [hskips, if_pos rfl, if_pos hskip]
    refine count?_big now _ f.skip _ ?_
    rw [parameters_query, ← length_filterValues, if_pos hskip]
    unfold limited
    cases f.limit <;> simp
  · have hskips : skips f = false := decide_eq_false hskip
    rw [hskips, if_neg hskip]
    rfl

theorem hold_query (r : Record) : (conditions f).hold now (query f).parameters r =
    (criteria f).all (Criterion.hold r) := by
  rw [parameters_query, hold_conditions]

theorem hold_count (r : Record) : (conditions f).hold now (count f).parameters r =
    (criteria f).all (Criterion.hold r) := by
  have hall := hold_conditions now f [] r
  rwa [List.append_nil] at hall

end Statement

namespace Records.Represent

variable {records : Records} {start : Int} {slots : List Slot} {f : Filter}

theorem filter_perm {p : Record → Bool} {q : Slot → Bool} (h : records.Represent start slots)
    (hpq : ∀ s ∈ slots, p (s.record start) = q s) :
    (records.filter p).Perm ((slots.filter q).map (Slot.record start)) := by
  have hfilter : (slots.map (Slot.record start)).filter p =
      (slots.filter q).map (Slot.record start) := by
    rw [List.filter_map]
    exact congrArg _ (List.filter_congr hpq)
  rw [← hfilter]
  exact h.perm.filter p

theorem countP_eq {p : Record → Bool} {q : Slot → Bool} (h : records.Represent start slots)
    (hpq : ∀ s ∈ slots, p (s.record start) = q s) : records.countP p = slots.countP q := by
  rw [List.countP_eq_length_filter, List.countP_eq_length_filter,
    (h.filter_perm hpq).length_eq, List.length_map]

theorem carryOut_query (now : Timestamp) (h : records.Represent start slots) (hf : f.IsWhole)
    (hmin : ∀ n, f.minAttempts = some n → n ≤ Value.smallLimit) :
    (Statement.query f).command.carryOut now (Statement.query f).parameters records =
      (let chosen := f.window ((slots.filter fun s => f.accepts s.entry).mergeSort Slot.precedes)
       .rows ((chosen.map (Slot.record start)).map Record.row) chosen.length, records) := by
  have hholds : ∀ s ∈ slots, (Statement.conditions f).hold now (Statement.query f).parameters
      (s.record start) = f.accepts s.entry := fun s hs => by
    rw [Statement.hold_query, Filter.criteria_eq_accepts (h.storable s hs).enqueuedAt hf hmin]
  have hperm := h.filter_perm hholds
  have hsub : (slots.filter fun s => f.accepts s.entry).Sublist slots := List.filter_sublist
  have hsorted := Slot.mergeSort_records (h.ids.sublist (hsub.map _))
    (fun s hs => h.storable s (hsub.subset hs)) hperm
  have hlength : ((records.filter ((Statement.conditions f).hold now
      (Statement.query f).parameters)).mergeSort Record.precedes).length ≤ Value.bigLimit := by
    rw [List.length_mergeSort, hperm.length_eq, List.length_map]
    exact Nat.le_trans hsub.length_le h.counted
  rw [Statement.query_eq, Command.carryOut]
  simp only [if_true, Statement.limit_query, Statement.offset_query, Filter.window_bound f hlength]
  rw [hsorted, Filter.map_window, List.length_map]

theorem carryOut_count (now : Timestamp) (h : records.Represent start slots) (hf : f.IsWhole)
    (hmin : ∀ n, f.minAttempts = some n → n ≤ Value.smallLimit) :
    (Statement.count f).command.carryOut now (Statement.count f).parameters records =
      (.rows [[("count", .number (slots.countP fun s => f.accepts s.entry))]] 1, records) := by
  have hcount := h.countP_eq (q := fun s => f.accepts s.entry) (p := (Statement.conditions f).hold
    now (Statement.count f).parameters) fun s hs => by
      rw [Statement.hold_count, Filter.criteria_eq_accepts (h.storable s hs).enqueuedAt hf hmin]
  show (ServerReply.rows [[("count", .number (records.countP _))]] 1, records) = _
  rw [hcount]

end Records.Represent

namespace MemoryStore

variable {m : MemoryStore} {f : Filter}

theorem selected_eq : m.selected f =
    (m.slots.filter fun s => f.accepts s.entry).map (·.entry) := by
  rw [selected, List.filter_map]
  rfl

theorem serve_query (reading : Instant) : (serve reading (.query f) m).1 =
    (f.window ((m.slots.filter fun s => f.accepts s.entry).mergeSort Slot.precedes)).map
      (·.entry) := by
  show f.window (inOrder (m.selected f)) = _
  rw [selected_eq, Slot.inOrder_map, Filter.map_window]

theorem serve_count (reading : Instant) : (serve reading (.count f) m).1 =
    m.slots.countP fun s => f.accepts s.entry := by
  show (m.selected f).length = _
  rw [selected_eq, List.length_map, List.countP_eq_length_filter]

end MemoryStore

namespace Filter

theorem mem_of_mem_window {α : Type} {f : Filter} {xs : List α} {a : α} (h : a ∈ f.window xs) :
    a ∈ xs := by
  unfold window at h
  split at h
  · exact List.mem_of_mem_drop (List.mem_of_mem_take h)
  · exact List.mem_of_mem_drop h

end Filter

namespace RelationalStore

variable {s : RelationalStore} {m : MemoryStore} {records : Records} {start : Int} {f : Filter}

theorem answer_query (now : Timestamp) (reading : Instant) (h : records.Represent start m.slots)
    (hf : f.IsWhole) (hmin : ∀ n, f.minAttempts = some n → n ≤ Value.smallLimit) :
    s.answer now (.query f) records =
      (.ok ((MemoryStore.serve reading (.query f) m).1.map Entry.bound), records) := by
  have hstorable : ∀ slot ∈ f.window ((m.slots.filter fun s => f.accepts s.entry).mergeSort
      Slot.precedes), slot.entry.Storable := fun slot hslot =>
    h.storable slot
      (List.mem_of_mem_filter (List.mem_mergeSort.mp (Filter.mem_of_mem_window hslot)))
  rw [answer_of_rows (h.carryOut_query now hf hmin), MemoryStore.serve_query]
  exact congrArg (·, records) (Slot.mapM_toEntry start hstorable)

theorem answer_count (now : Timestamp) (reading : Instant) (h : records.Represent start m.slots)
    (hf : f.IsWhole) (hmin : ∀ n, f.minAttempts = some n → n ≤ Value.smallLimit) :
    s.answer now (.count f) records =
      (.ok (MemoryStore.serve reading (.count f) m).1, records) := by
  have hcarry := h.carryOut_count now (f := f.unpaginated) ⟨hf.enqueuedFrom, hf.enqueuedTo⟩ hmin
  rw [answer_of_rows hcarry, MemoryStore.serve_count]
  rfl

/-- What every row that a filter accepts meets, however many attempts the filter asks for. -/
theorem hold_of_accepts (now : Timestamp) (h : records.Represent start m.slots) (hf : f.IsWhole)
    {slot : Slot} (hslot : slot ∈ m.slots) (haccepts : f.accepts slot.entry = true) :
    (Statement.conditions f).hold now (Statement.query f).parameters (slot.record start) = true ∧
      (Statement.conditions f).hold now (Statement.count f).parameters (slot.record start) =
        true := by
  rw [Statement.hold_query, Statement.hold_count]
  have hall : (Statement.criteria f).all (Statement.Criterion.hold (slot.record start)) = true :=
    Filter.criteria_of_accepts (h.storable slot hslot).enqueuedAt hf haccepts
  exact ⟨hall, hall⟩

/-- The statements of a filter select what the filter accepts. Of rows in any order, the database
returns the dead letters that a store in memory returns, with their attempts as they were bound, and
counts as many. The placeholders in the texts are numbered from one on, with a value for each. The
condition of each criterion has the number of its value. A filter that asks for more attempts than
a column holds still selects all that it accepts. -/
theorem filter_statements {schema table : String} (now : Timestamp) (reading : Instant)
    (hname : TableName.create schema table = .ok s.table)
    (h : records.Represent start m.slots) (hf : f.IsWhole) :
    ((∀ n, f.minAttempts = some n → n ≤ Value.smallLimit) →
      s.answer now (.query f) records =
        (.ok ((MemoryStore.serve reading (.query f) m).1.map Entry.bound), records) ∧
      s.answer now (.count f) records =
        (.ok (MemoryStore.serve reading (.count f) m).1, records)) ∧
    (∀ slot ∈ m.slots, f.accepts slot.entry = true →
      (Statement.conditions f).hold now (Statement.query f).parameters (slot.record start) =
        true ∧
      (Statement.conditions f).hold now (Statement.count f).parameters (slot.record start) =
        true) ∧
    placeholderNumbers ((Statement.query f).command.text s.table).toList =
      List.range' 1 (Statement.query f).parameters.length ∧
    placeholderNumbers ((Statement.count f).command.text s.table).toList =
      List.range' 1 (Statement.count f).parameters.length ∧
    ∀ i c, (Statement.criteria f)[i]? = some c →
      (Statement.conditions f)[i + 1]? =
        some (.compare c.2.1 (.column c.1) (.parameter (i + 1))) ∧
      (Statement.query f).parameters[i]? = some c.2.2 ∧
      (Statement.count f).parameters[i]? = some c.2.2 :=
  ⟨fun hmin => ⟨answer_query now reading h hf hmin, answer_count now reading h hf hmin⟩,
    fun _ hslot haccepts => hold_of_accepts now h hf hslot haccepts,
    Statement.placeholderNumbers_query hname f, Statement.placeholderNumbers_count hname f,
    fun _ _ hc => Statement.condition_and_value hc⟩

def letter (id attempts : Nat) : Entry :=
  { Entry.ofMessage ⟨id⟩ { messageType := "order.placed" } .unhandledException none []
      { nanos := 1000 } with attempts }

theorem storable_letter {id : Nat} (h : id < EntryId.limit) (attempts : Nat) :
    (letter id attempts).Storable := ⟨h, rfl, nofun⟩

/-- Three dead letters, of which the last has more attempts than a column holds. -/
def threeLetters : MemoryStore where
  slots := [⟨letter 31 2, none⟩, ⟨letter 32 2147483647, none⟩, ⟨letter 900 4294967295, some 5⟩]

def lastOfMany : Filter where
  messageType := some "order.placed"
  enqueuedTo := some { nanos := 1000 }
  minAttempts := some 2147483647
  skip := 1
  limit := some 18446744073709551615

def onePlace : RelationalStore := ⟨⟨"public", "dead_letters"⟩, 1, 1⟩

theorem filter_statements_lastOfMany :
    let records := (threeLetters.slots.map (Slot.record 0)).reverse
    onePlace.answer { nanos := 7 } (.query lastOfMany) records =
      (.ok [letter 900 2147483647], records) := by
  have hname : TableName.create "public" "dead_letters" = .ok onePlace.table := by decide
  have h : Records.Represent (threeLetters.slots.map (Slot.record 0)).reverse 0
      threeLetters.slots :=
    { perm := List.reverse_perm _
      ids := by decide
      storable := by
        intro slot hslot
        simp only [threeLetters, List.mem_cons, List.not_mem_nil, or_false] at hslot
        rcases hslot with rfl | rfl | rfl
        · exact storable_letter (by decide) 2
        · exact storable_letter (by decide) 2147483647
        · exact storable_letter (by decide) 4294967295
      counted := by decide }
  have hf : lastOfMany.IsWhole := ⟨nofun, fun t ht => by cases ht; rfl⟩
  have hmin : ∀ n, lastOfMany.minAttempts = some n → n ≤ Value.smallLimit := by
    intro n hn
    cases hn
    decide
  have hmemory : (MemoryStore.serve 6 (.query lastOfMany) threeLetters).1.map Entry.bound =
      [letter 900 2147483647] := by
    rw [MemoryStore.serve_query, List.mergeSort_of_pairwise (by decide)]
    decide
  have hanswer := ((filter_statements { nanos := 7 } 6 hname h hf).1 hmin).1
  rw [hmemory] at hanswer
  exact hanswer

end RelationalStore

end Delivery
