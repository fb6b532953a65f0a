import Delivery.Proofs.Relational.Placeholders
import Delivery.Proofs.Relational.Rows

/-!
# Dead letters read back

An insert names columns in brackets, and behind them, in brackets again, the placeholders of their
values. `Statement.boundTo` reads in the text of the insert which of its values a column gets. A row
that has these values in the columns of a dead letter reads as the dead letter that was inserted
(`Statement.readsBack_insert`).
-/

namespace Delivery

/-! ### Lists in brackets -/

/-- The words of a list, which are separated by commas. Blanks do not count. -/
def items (cs : List Char) : List (List Char) := (cs.filter (· ≠ ' ')).splitOn ','

/-- What stands between the first opening bracket and the next closing one. -/
def bracketed (cs : List Char) : List Char := (cs.dropWhile (· ≠ '(')).tail.takeWhile (· ≠ ')')

def behindBracket (cs : List Char) : List Char := (cs.dropWhile (· ≠ ')')).tail

theorem filter_intercalate_comma (words : List (List Char)) :
    ([',', ' '].intercalate words).filter (· ≠ ' ') =
      [','].intercalate (words.map (List.filter (· ≠ ' '))) := by
  induction words with
  | nil => rfl
  | cons word words ih =>
    cases words with
    | nil => simp
    | cons next rest =>
      rw [List.intercalate_cons_cons, List.map_cons, List.map_cons, List.intercalate_cons_cons,
        List.filter_append, List.filter_append, ih]
      rfl

theorem items_intercalate {words : List String} (hne : words ≠ [])
    (hwords : ∀ s ∈ words, ',' ∉ s.toList ∧ ' ' ∉ s.toList) :
    items (", ".intercalate words).toList = words.map String.toList := by
  have hplain : ∀ s ∈ words, s.toList.filter (· ≠ ' ') = s.toList := fun s hs =>
    List.filter_eq_self.mpr fun c hc => by
      have hblank : c ≠ ' ' := fun h => (hwords s hs).2 (h ▸ hc)
      simp [hblank]
  have hfilter : (words.map String.toList).map (List.filter (· ≠ ' ')) =
      words.map String.toList := by
    rw [List.map_map]
    exact List.map_congr_left hplain
  have hcomma : ", ".toList = [',', ' '] := rfl
  rw [items, String.toList_intercalate, hcomma, filter_intercalate_comma, hfilter]
  refine List.splitOn_intercalate ',' (fun cs hcs => ?_) (by simpa using hne)
  obtain ⟨s, hs, rfl⟩ := List.mem_map.mp hcs
  exact (hwords s hs).1

theorem dropWhile_ne {c : Char} {cs : List Char} (h : c ∉ cs) (rest : List Char) :
    (cs ++ c :: rest).dropWhile (· ≠ c) = c :: rest := by
  have hne : ∀ d ∈ cs, decide (d ≠ c) = true := fun d hd =>
    decide_eq_true fun heq => h (heq ▸ hd)
  rw [List.dropWhile_append_of_pos hne]
  simp

theorem takeWhile_ne {c : Char} {cs : List Char} (h : c ∉ cs) (rest : List Char) :
    (cs ++ c :: rest).takeWhile (· ≠ c) = cs := by
  have hne : ∀ d ∈ cs, decide (d ≠ c) = true := fun d hd =>
    decide_eq_true fun heq => h (heq ▸ hd)
  rw [List.takeWhile_append_of_pos hne]
  simp

theorem bracketed_eq {front inside : List Char} (hfront : '(' ∉ front) (hinside : ')' ∉ inside)
    (rest : List Char) : bracketed (front ++ '(' :: (inside ++ ')' :: rest)) = inside := by
  rw [bracketed, dropWhile_ne hfront, List.tail_cons, takeWhile_ne hinside]

theorem behindBracket_eq {front : List Char} (h : ')' ∉ front) (rest : List Char) :
    behindBracket (front ++ ')' :: rest) = rest := by
  rw [behindBracket, dropWhile_ne h, List.tail_cons]

theorem lookup_zip {α β : Type} [BEq α] [LawfulBEq α] {keys : List α} {values : List β}
    (hkeys : keys.Nodup) {i : Nat} {k : α} {v : β} (hk : keys[i]? = some k)
    (hv : values[i]? = some v) : (keys.zip values).lookup k = some v := by
  induction keys generalizing values i with
  | nil => simp at hk
  | cons key keys ih =>
    obtain ⟨hnot, hrest⟩ := List.nodup_cons.mp hkeys
    cases values with
    | nil => simp at hv
    | cons value values =>
      cases i with
      | zero =>
        obtain rfl : key = k := by simpa using hk
        obtain rfl : value = v := by simpa using hv
        simp
      | succ i =>
        rw [List.getElem?_cons_succ] at hk hv
        have hne : (k == key) = false := by
          rw [beq_eq_false_iff_ne]
          rintro rfl
          exact hnot (List.mem_of_getElem? hk)
        rw [List.zip_cons_cons, List.lookup_cons, hne, ih hrest hk hv]

/-! ### What an insert assigns -/

/-- The columns that a text names in its first brackets, each with the word at the same place in
the second. -/
def assigned (text : List Char) : List (List Char × List Char) :=
  (items (bracketed text)).zip (items (bracketed (behindBracket text)))

/-- The value that a statement binds at the placeholder of a column. -/
def Statement.boundTo (s : Statement) (t : TableName) (column : List Char) : Option Value := do
  let word ← (assigned (s.command.text t).toList).lookup column
  match placeholderNumbers word with
  | [n + 1] => s.parameters[n]?
  | _ => none

/-- The columns of a dead letter, each with the value bound at its placeholder. -/
def Statement.returned (s : Statement) (t : TableName) : Row :=
  (items Column.list.toList).map fun column =>
    (String.ofList column, (s.boundTo t column).getD .null)

theorem items_columns : items Column.list.toList = Column.ofEntry.map (·.name.toList) := by
  rw [Column.list, items_intercalate (by decide), List.map_map]
  · rfl
  intro s hs
  obtain ⟨c, -, rfl⟩ := List.mem_map.mp hs
  exact ⟨c.not_mem_name (by decide), c.not_mem_name (by decide)⟩

def placeholder (n : Nat) : String := "$" ++ toString (n + 1)

theorem toList_placeholder (n : Nat) :
    (placeholder n).toList = '$' :: Nat.toDigits 10 (n + 1) := by
  simp [placeholder]

theorem not_mem_placeholder {x : Char} (hdollar : x ≠ '$') (hdigit : x.isDigit = false) (n : Nat) :
    x ∉ (placeholder n).toList := by
  rw [toList_placeholder, List.mem_cons, not_or]
  refine ⟨hdollar, fun hmem => ?_⟩
  have htrue := Nat.isDigit_of_mem_toDigits (by decide) (by decide) hmem
  simp [hdigit] at htrue

theorem placeholderNumbers_placeholder (n : Nat) :
    placeholderNumbers (placeholder n).toList = [n + 1] := by
  have hnumber := placeholderNumbers_number (n + 1) endsNumber_nil
  rwa [List.append_nil, Nat.toString_eq_ofList_toDigits, String.toList_ofList,
    ← toList_placeholder] at hnumber

theorem items_placeholders :
    items placeholders.toList = (List.range 14).map fun n => (placeholder n).toList := by
  have heq : placeholders = ", ".intercalate ((List.range 14).map placeholder) := rfl
  rw [heq, items_intercalate (by decide), List.map_map]
  · rfl
  intro s hs
  obtain ⟨n, -, rfl⟩ := List.mem_map.mp hs
  exact ⟨not_mem_placeholder (by decide) (by decide) n,
    not_mem_placeholder (by decide) (by decide) n⟩

variable {schema table : String} {t : TableName}

/-- A text of two lists in brackets assigns the words of the second to those of the first. -/
theorem assigned_brackets {front first between second : List Char}
    (hfront : '(' ∉ front ∧ ')' ∉ front) (hfirst : ')' ∉ first) (hbetween : '(' ∉ between)
    (hsecond : ')' ∉ second) :
    assigned (front ++ '(' :: (first ++ ')' :: (between ++ '(' :: (second ++ [')'])))) =
      (items first).zip (items second) := by
  have hclosed : ')' ∉ front ++ '(' :: first := by
    rw [List.mem_append, List.mem_cons, not_or, not_or]
    exact ⟨hfront.2, by decide, hfirst⟩
  have hbehind := behindBracket_eq hclosed (between ++ '(' :: (second ++ [')']))
  rw [List.append_assoc, List.cons_append] at hbehind
  rw [assigned, hbehind, bracketed_eq hfront.1 hfirst, bracketed_eq hbetween hsecond]

theorem toList_insert (t : TableName) : (Command.insert.text t).toList =
    ("INSERT INTO ".toList ++ (t.text.toList ++ [' '])) ++
      '(' :: (Column.list.toList ++ ')' :: (" VALUES ".toList ++ '(' ::
        (placeholders.toList ++ [')']))) := by
  have htext : (Command.insert.text t).toList =
      "INSERT INTO ".toList ++ (t.text.toList ++ (" (".toList ++ (Column.list.toList ++
        (") VALUES (".toList ++ (placeholders.toList ++ ")".toList))))) := by
    rw [Command.text_eq]
    simp only [Command.verb, Verb.text, Command.rest, String.toList_append, List.append_assoc]
  -- Over any parts, so that nothing unfolds the lists.
  have hbrackets (verb name columns values : List Char) :
      verb ++ (name ++ (" (".toList ++ (columns ++ (") VALUES (".toList ++
        (values ++ ")".toList))))) =
      (verb ++ (name ++ [' '])) ++ '(' :: (columns ++ ')' :: (" VALUES ".toList ++ '(' ::
        (values ++ [')']))) := by
    simp
  exact htext.trans (hbrackets _ _ _ _)

theorem assigned_insert (h : TableName.create schema table = .ok t) :
    assigned (Command.insert.text t).toList =
      (Column.ofEntry.map (·.name.toList)).zip
        ((List.range 14).map fun n => (placeholder n).toList) := by
  have hopen := TableName.not_mem (x := '(') (by decide) (by decide) (by decide) h
  have hclose := TableName.not_mem (x := ')') (by decide) (by decide) (by decide) h
  have hfront : '(' ∉ "INSERT INTO ".toList ++ (t.text.toList ++ [' ']) ∧
      ')' ∉ "INSERT INTO ".toList ++ (t.text.toList ++ [' ']) := by
    simp [hopen, hclose]
  have hcolumns : ')' ∉ Column.list.toList := Column.not_mem_list (by decide) (by decide)
  have hplaceholders : ')' ∉ placeholders.toList := not_mem_intercalate (by decide) fun s hs => by
    obtain ⟨n, -, rfl⟩ := List.mem_map.mp hs
    exact not_mem_placeholder (by decide) (by decide) n
  rw [toList_insert, assigned_brackets hfront hcolumns (by decide) hplaceholders, items_columns,
    items_placeholders]

/-- A column of a dead letter gets its own value. -/
theorem Statement.boundTo_insert (h : TableName.create schema table = .ok t) (e : Entry)
    {c : Column} (hc : c ∈ Column.ofEntry) :
    (insert e).boundTo t c.name.toList = some (entryValue e c) := by
  obtain ⟨i, hi⟩ := List.getElem?_of_mem hc
  have hlt : i < 14 := (List.getElem?_eq_some_iff.mp hi).1
  have hname : (Column.ofEntry.map (·.name.toList))[i]? = some c.name.toList := by
    rw [List.getElem?_map, hi, Option.map_some]
  have hword : ((List.range 14).map fun n => (placeholder n).toList)[i]? =
      some (placeholder i).toList := by
    rw [List.getElem?_map, List.getElem?_range hlt, Option.map_some]
  have hlookup := lookup_zip (by decide) hname hword
  have hvalue : (insert e).parameters[i]? = some (entryValue e c) := by
    show (Column.ofEntry.map (entryValue e))[i]? = _
    rw [List.getElem?_map, hi, Option.map_some]
  have hcommand : (insert e).command = .insert := rfl
  rw [boundTo, hcommand, assigned_insert h, hlookup, Option.bind_eq_bind, Option.bind_some,
    placeholderNumbers_placeholder]
  exact hvalue

theorem Statement.returned_insert (h : TableName.create schema table = .ok t) (e : Entry) :
    (insert e).returned t = Record.row (entryValue e) := by
  rw [returned, items_columns, List.map_map, Record.row]
  refine List.map_congr_left fun c hc => ?_
  rw [Function.comp_apply, boundTo_insert h e hc, String.ofList_toList, Option.getD_some]

/-! ### Times in whole microseconds -/

theorem Timestamp.isWhole_toMicroseconds (t : Timestamp) : t.toMicroseconds.IsWhole := by
  have hcancel (a b : Int) : a + b - a = b := by omega
  rw [IsWhole, toMicroseconds]
  simp only [toMicroseconds, hcancel, Int.mul_tdiv_cancel _ (by decide : (1000 : Int) ≠ 0)]

/-- The times of a dead letter cut to whole microseconds. -/
def Entry.toMicroseconds (e : Entry) : Entry :=
  { e with
    enqueuedAt := e.enqueuedAt.toMicroseconds
    replayedAt := e.replayedAt.map Timestamp.toMicroseconds }

/-- The times of a dead letter are whole microseconds. -/
structure Entry.IsWhole (e : Entry) : Prop where
  enqueuedAt : e.enqueuedAt.IsWhole
  replayedAt : ∀ t, e.replayedAt = some t → t.IsWhole

namespace Entry

variable {e : Entry}

theorem isWhole_toMicroseconds (e : Entry) : e.toMicroseconds.IsWhole where
  enqueuedAt := e.enqueuedAt.isWhole_toMicroseconds
  replayedAt t ht := by
    obtain ⟨u, -, rfl⟩ := Option.map_eq_some_iff.mp ht
    exact u.isWhole_toMicroseconds

theorem toMicroseconds_eq (h : e.IsWhole) : e.toMicroseconds = e := by
  have henqueued : e.enqueuedAt.toMicroseconds = e.enqueuedAt := h.enqueuedAt
  have hreplayed : e.replayedAt.map Timestamp.toMicroseconds = e.replayedAt := by
    cases htime : e.replayedAt with
    | none => rfl
    | some t => exact congrArg some (h.replayedAt t htime)
  rw [toMicroseconds, henqueued, hreplayed]

end Entry

/-! ### Reading back -/

namespace Statement

theorem entryValue_toMicroseconds (e : Entry) : entryValue e.toMicroseconds = entryValue e := by
  have hstored (t : Timestamp) : Value.stored t.toMicroseconds = Value.stored t :=
    congrArg Value.time t.isWhole_toMicroseconds
  funext c
  cases c with
  | enqueuedAt => exact hstored e.enqueuedAt
  | replayedAt =>
    show ((e.replayedAt.map Timestamp.toMicroseconds).map Value.stored).getD .null = _
    rw [Option.map_map]
    congr 2
    exact funext hstored
  | _ => rfl

/-- What is inserted reads back with its times cut to microseconds and its attempts to 31 bits. -/
theorem toEntry_returned_insert (h : TableName.create schema table = .ok t) {e : Entry}
    (hid : e.id.value < EntryId.limit) :
    ((insert e).returned t).toEntry = .ok e.toMicroseconds.bound := by
  have hwhole := e.isWhole_toMicroseconds
  have hread : (Slot.record 0 { entry := e.toMicroseconds }).row.toEntry =
      .ok e.toMicroseconds.bound :=
    Slot.toEntry_record ⟨hid, hwhole.enqueuedAt, hwhole.replayedAt⟩
  have hrow : (Slot.record 0 { entry := e.toMicroseconds }).row = Record.row (entryValue e) := by
    rw [← entryValue_toMicroseconds e]
    rfl
  rw [returned_insert h e, ← hrow, hread]

/-- What comes back of a dead letter when the database returns for each of its columns the value
that was bound at the placeholder of that column. -/
structure ReadsBack (t : TableName) (e : Entry) : Prop where
  -- The text names the columns of a dead letter, and a placeholder for each.
  columns : (assigned ((insert e).command.text t).toList).map Prod.fst =
    items Column.list.toList
  -- There are as many values as columns, and each stands at the placeholder of its column.
  values : (insert e).parameters.length = (items Column.list.toList).length
  bound : ∀ c ∈ Column.ofEntry, (insert e).boundTo t c.name.toList = some (entryValue e c)
  -- The row is read, without a failure, as the dead letter; its failure and trace are there or
  -- missing as they were, and only attempts and parts of microseconds may be cut.
  cut : ((insert e).returned t).toEntry =
    .ok { e with
      attempts := min e.attempts (2 ^ 31 - 1)
      enqueuedAt := e.enqueuedAt.toMicroseconds
      replayedAt := e.replayedAt.map Timestamp.toMicroseconds }
  whole : e.IsWhole → ((insert e).returned t).toEntry =
    .ok { e with attempts := min e.attempts (2 ^ 31 - 1) }
  same : e.IsWhole → e.attempts ≤ 2 ^ 31 - 1 → ((insert e).returned t).toEntry = .ok e
  -- The texts of the id and the reason read as what they are the texts of.
  id : EntryId.read e.id.text = .ok e.id
  reason : Reason.read? e.reason.text = some e.reason

theorem readsBack_insert (h : TableName.create schema table = .ok t) {e : Entry}
    (hid : e.id.value < EntryId.limit) : ReadsBack t e := by
  have hcut := toEntry_returned_insert h hid
  have hwhole : e.IsWhole → ((insert e).returned t).toEntry =
      .ok { e with attempts := min e.attempts (2 ^ 31 - 1) } := fun hwhole => by
    rw [hcut, Entry.toMicroseconds_eq hwhole]
    rfl
  refine ⟨?_, ?_, fun c hc => boundTo_insert h e hc, hcut, hwhole, ?_, EntryId.read_text hid,
    e.reason.read?_text⟩
  · have hcommand : (insert e).command = .insert := rfl
    rw [hcommand, assigned_insert h, items_columns, List.map_fst_zip (by decide)]
  · rw [items_columns, List.length_map, insert, List.length_map]
  · intro hmicro hattempts
    rw [hwhole hmicro, Nat.min_eq_left hattempts]

/-- A replayed dead letter whose failure has no trace, with more attempts than its column holds. -/
theorem readsBack_insert_traceless :
    let t : TableName := ⟨"queues", "dead_letters"⟩
    let e : Entry :=
      { id := ⟨77⟩, messageType := "OrderPlaced", payload := [0, 255], reason := .maxRetriesExceeded
        failure := some ⟨"too slow", none⟩, enqueuedAt := ⟨-5000, false⟩, attempts := 4294967295
        metadata := [("region", "north")], correlationId := some "", causationId := none
        sourceQueue := some "orders", replayed := true, replayedAt := some ⟨1000, false⟩ }
    TableName.create "queues" "dead_letters" = .ok t ∧ e.id.value < EntryId.limit ∧
      ReadsBack t e ∧
      ((insert e).returned t).toEntry = .ok { e with attempts := 2147483647 } := by
  intro t e
  have ht : TableName.create "queues" "dead_letters" = .ok t := by decide +kernel
  have hid : e.id.value < EntryId.limit := by decide
  have hback : ReadsBack t e := readsBack_insert ht hid
  have hwhole : e.IsWhole := ⟨by decide, fun u hu => by cases hu; decide⟩
  exact ⟨ht, hid, hback, hback.whole hwhole⟩

end Statement

end Delivery
