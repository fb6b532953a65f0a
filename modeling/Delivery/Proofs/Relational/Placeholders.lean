import Delivery.Proofs.Relational.Texts

/-!
# Placeholders of statements

A text refers to the values of its statement by placeholders, a dollar sign with a number behind it.
The placeholders of the two statements of a filter are read from their texts, and they are the
numbers from one to the number of values, in order.
-/

namespace Delivery

/-- The numbers of the placeholders in a text, in the order in which they stand there. -/
def placeholderNumbers : List Char → List Nat
  | [] => []
  | c :: cs =>
    if c = '$' then Nat.ofDigitChars 10 (cs.takeWhile Char.isDigit) 0 :: placeholderNumbers cs
    else placeholderNumbers cs

/-- A number that stands before these characters ends there. -/
def EndsNumber (cs : List Char) : Prop := cs.head?.any Char.isDigit = false

instance (cs : List Char) : Decidable (EndsNumber cs) :=
  inferInstanceAs (Decidable (cs.head?.any Char.isDigit = false))

theorem endsNumber_append {s : String} (h : s.toList ≠ [] ∧ EndsNumber s.toList)
    (rest : List Char) : EndsNumber (s.toList ++ rest) := by
  unfold EndsNumber at h ⊢
  cases hs : s.toList with
  | nil => exact absurd hs h.1
  | cons c cs =>
    rw [hs] at h
    exact h.2

theorem endsNumber_nil : EndsNumber [] := rfl

theorem placeholderNumbers_append {cs : List Char} (h : '$' ∉ cs) (rest : List Char) :
    placeholderNumbers (cs ++ rest) = placeholderNumbers rest := by
  induction cs with
  | nil => rfl
  | cons c cs ih =>
    obtain ⟨hc, hcs⟩ := not_or.mp (mt List.mem_cons.mpr h)
    have hne : ¬ c = '$' := fun heq => hc heq.symm
    rw [List.cons_append, placeholderNumbers, if_neg hne, ih hcs]

theorem takeWhile_isDigit {cs : List Char} (h : EndsNumber cs) :
    cs.takeWhile Char.isDigit = [] := by
  cases cs with
  | nil => rfl
  | cons c cs =>
    have hc : c.isDigit = false := h
    simp [hc]

theorem placeholderNumbers_number (n : Nat) {rest : List Char} (h : EndsNumber rest) :
    placeholderNumbers ('$' :: ((toString n).toList ++ rest)) = n :: placeholderNumbers rest := by
  have hchars : (toString n).toList = Nat.toDigits 10 n := by
    rw [Nat.toString_eq_ofList_toDigits, String.toList_ofList]
  have hdigits : ∀ c ∈ Nat.toDigits 10 n, c.isDigit = true := fun c hc =>
    Nat.isDigit_of_mem_toDigits (by decide) (by decide) hc
  have hno : '$' ∉ Nat.toDigits 10 n := fun hmem => absurd (hdigits _ hmem) (by decide)
  rw [placeholderNumbers, if_pos rfl, hchars, List.takeWhile_append_of_pos hdigits,
    takeWhile_isDigit h, List.append_nil, Nat.ofDigitChars_toDigits (by decide) (by decide),
    placeholderNumbers_append hno]

/-! ### Names of tables -/

theorem not_mem_of_isIdentifier {x : Char} (hx : continuesIdentifier x = false) {s : String}
    (h : isIdentifier s = true) : x ∉ s.toList := by
  unfold isIdentifier at h
  cases hchars : s.toList with
  | nil => exact List.not_mem_nil
  | cons c rest =>
    simp only [hchars, Bool.and_eq_true, List.all_eq_true] at h
    obtain ⟨⟨hfirst, hrest⟩, -⟩ := h
    have hstart : startsIdentifier x = false := by
      simp only [continuesIdentifier, Char.isAlphanum, Bool.or_eq_false_iff] at hx
      simp [startsIdentifier, hx.1.1, hx.2]
    rintro (_ | ⟨_, hmem⟩)
    · exact absurd hfirst (by simp [hstart])
    · exact absurd (hrest _ hmem) (by simp [hx])

theorem TableName.create_eq_ok_iff {schema table : String} {t : TableName} :
    TableName.create schema table = .ok t ↔
      isIdentifier schema = true ∧ isIdentifier table = true ∧ t = ⟨schema, table⟩ := by
  unfold TableName.create
  by_cases hschema : isIdentifier schema = true
  · by_cases htable : isIdentifier table = true
    · simp [hschema, htable, eq_comm]
    · simp [hschema, htable]
  · simp [hschema]

/-- In the quoted name of a table with plain parts there are quotes and a dot besides the
characters of identifiers. -/
theorem TableName.not_mem {x : Char} (hx : continuesIdentifier x = false)
    (hquote : x ≠ '"') (hdot : x ≠ '.') {schema table : String} {t : TableName}
    (h : TableName.create schema table = .ok t) : x ∉ t.text.toList := by
  obtain ⟨hschema, htable, rfl⟩ := TableName.create_eq_ok_iff.mp h
  have hs := not_mem_of_isIdentifier hx hschema
  have ht := not_mem_of_isIdentifier hx htable
  simp [TableName.text, TableName.fragments, Fragment.join, Fragment.text, hs, ht, hquote, hdot]

/-- The quoted name of a table with plain parts has no placeholder. -/
theorem TableName.dollar_not_mem {schema table : String} {t : TableName}
    (h : TableName.create schema table = .ok t) : '$' ∉ t.text.toList :=
  TableName.not_mem (by decide) (by decide) (by decide) h

/-! ### Names of columns -/

theorem Column.isIdentifier_name (c : Column) : isIdentifier c.name = true := by
  cases c <;> decide

theorem Column.not_mem_name {x : Char} (hx : continuesIdentifier x = false) (c : Column) :
    x ∉ c.name.toList := not_mem_of_isIdentifier hx c.isIdentifier_name

theorem Column.dollar_not_mem (c : Column) : '$' ∉ c.name.toList := c.not_mem_name (by decide)

theorem not_mem_join {c : Char} {texts : List String} (h : ∀ s ∈ texts, c ∉ s.toList) :
    c ∉ (String.join texts).toList := by
  induction texts with
  | nil => simp
  | cons s rest ih =>
    rw [String.join_cons, String.toList_append, List.mem_append, not_or]
    exact ⟨h s List.mem_cons_self, ih fun t ht => h t (List.mem_cons_of_mem s ht)⟩

theorem not_mem_intercalate {x : Char} {words : List String} (hsep : x ∉ ", ".toList)
    (hwords : ∀ s ∈ words, x ∉ s.toList) : x ∉ (", ".intercalate words).toList := by
  cases words with
  | nil => simp
  | cons word words =>
    rw [intercalate_cons, String.toList_append, List.mem_append, not_or]
    refine ⟨hwords word List.mem_cons_self, not_mem_join fun s hs => ?_⟩
    obtain ⟨next, hnext, rfl⟩ := List.mem_map.mp hs
    rw [String.toList_append, List.mem_append, not_or]
    exact ⟨hsep, hwords next (List.mem_cons_of_mem _ hnext)⟩

theorem Column.not_mem_list {x : Char} (hsep : x ∉ ", ".toList)
    (hx : continuesIdentifier x = false) : x ∉ Column.list.toList :=
  not_mem_intercalate hsep fun s hs => by
    obtain ⟨c, -, rfl⟩ := List.mem_map.mp hs
    exact c.not_mem_name hx

theorem Column.dollar_not_mem_list : '$' ∉ Column.list.toList :=
  not_mem_list (by decide) (by decide)

theorem Verb.dollar_not_mem (v : Verb) : '$' ∉ v.text.toList := by
  cases v with
  | selectFrom =>
    show '$' ∉ ("SELECT " ++ Column.list ++ " FROM ").toList
    rw [String.toList_append, String.toList_append, List.mem_append, List.mem_append]
    rintro ((hmem | hmem) | hmem)
    · exact absurd hmem (by decide)
    · exact Column.dollar_not_mem_list hmem
    · exact absurd hmem (by decide)
  | insertInto | countFrom | update | deleteFrom => decide

theorem Command.placeholderNumbers_text {schema table : String} {t : TableName}
    (h : TableName.create schema table = .ok t) (c : Command) :
    placeholderNumbers (c.text t).toList = placeholderNumbers c.rest.toList := by
  rw [c.text_eq t, String.toList_append, String.toList_append,
    placeholderNumbers_append c.verb.dollar_not_mem,
    placeholderNumbers_append (TableName.dollar_not_mem h)]

/-! ### Statements of a filter -/

namespace Statement

theorem toList_head (q : Column × Comparison) :
    (head q).toList = (" AND " ++ (q.1.name ++ q.2.text)).toList ++ ['$'] := by
  simp [head]

theorem dollar_not_mem_head : ∀ q ∈ questions,
    '$' ∉ (" AND " ++ (q.1.name ++ q.2.text)).toList := by
  intro q _
  have hop : '$' ∉ q.2.text.toList := by cases q.2 <;> decide
  simp [q.1.dollar_not_mem, hop]

theorem endsNumber_criteriaText (n : Nat) (cs : List Criterion) {rest : List Char}
    (h : EndsNumber rest) : EndsNumber ((criteriaText n cs).toList ++ rest) := by
  cases cs with
  | nil => simpa [criteriaText] using h
  | cons c cs =>
    simp only [criteriaText, head, String.append_assoc, String.toList_append (s := " AND "),
      List.append_assoc]
    exact endsNumber_append (by decide) _

/-- Criteria are numbered one after the other in their text. -/
theorem placeholderNumbers_criteriaText (n : Nat) {cs : List Criterion} {rest : List Char}
    (hcs : ∀ c ∈ cs, question c ∈ questions) (hrest : EndsNumber rest) :
    placeholderNumbers ((criteriaText n cs).toList ++ rest) =
      List.range' n cs.length ++ placeholderNumbers rest := by
  induction cs generalizing n with
  | nil => simp [criteriaText]
  | cons c cs ih =>
    have hc : question c ∈ questions := hcs c List.mem_cons_self
    have htail := ih (n + 1) fun d hd => hcs d (List.mem_cons_of_mem c hd)
    have htext : (criteriaText n (c :: cs)).toList ++ rest =
        (" AND " ++ ((question c).1.name ++ (question c).2.text)).toList ++
          ('$' :: ((toString n).toList ++ ((criteriaText (n + 1) cs).toList ++ rest))) := by
      rw [criteriaText, String.toList_append, toList_head, String.toList_append (s := toString n)]
      simp only [List.append_assoc, List.cons_append, List.nil_append]
    rw [htext, placeholderNumbers_append (dollar_not_mem_head _ hc),
      placeholderNumbers_number n (endsNumber_criteriaText (n + 1) cs hrest), htail]
    rfl

theorem placeholderNumbers_parameter (keyword : String) (h : '$' ∉ keyword.toList) (n : Nat)
    {rest : List Char} (hrest : EndsNumber rest) :
    placeholderNumbers ((keyword ++ (Term.parameter n).text).toList ++ rest) =
      n :: placeholderNumbers rest := by
  have htext : (keyword ++ (Term.parameter n).text).toList ++ rest =
      keyword.toList ++ ('$' :: ((toString n).toList ++ rest)) := by
    have hparameter : (Term.parameter n).text = "$" ++ toString n := rfl
    have hdollar : "$".toList = ['$'] := rfl
    rw [hparameter, String.toList_append, String.toList_append, hdollar]
    simp only [List.append_assoc, List.cons_append, List.nil_append]
  rw [htext, placeholderNumbers_append h, placeholderNumbers_number n hrest]

theorem placeholderNumbers_window (limited skips : Bool) (n : Nat) :
    placeholderNumbers (windowText limited skips (Term.parameter n).text
      (Term.parameter (n + if limited then 1 else 0)).text).toList =
      List.range' n ((if limited then 1 else 0) + if skips then 1 else 0) := by
  have hlimit (n : Nat) {rest : List Char} (hrest : EndsNumber rest) :=
    placeholderNumbers_parameter " LIMIT " (by decide) n hrest
  have hoffset (n : Nat) : placeholderNumbers (" OFFSET " ++ (Term.parameter n).text).toList =
      [n] := by
    have hlast := placeholderNumbers_parameter " OFFSET " (by decide) n endsNumber_nil
    rwa [List.append_nil] at hlast
  cases limited with
  | false =>
    cases skips with
    | false => rfl
    | true => exact (congrArg _ (congrArg _ String.empty_append)).trans (hoffset n)
  | true =>
    cases skips with
    | false =>
      have hone := hlimit n endsNumber_nil
      rw [List.append_nil] at hone
      exact (congrArg _ (congrArg _ String.append_empty)).trans hone
    | true =>
      have hrest : EndsNumber (" OFFSET " ++ (Term.parameter (n + 1)).text).toList := by
        rw [String.toList_append]
        exact endsNumber_append (by decide) _
      have htext : (windowText true true (Term.parameter n).text (Term.parameter (n + 1)).text) =
          " LIMIT " ++ (Term.parameter n).text ++ (" OFFSET " ++ (Term.parameter (n + 1)).text) :=
        rfl
      show placeholderNumbers (windowText true true _ (Term.parameter (n + 1)).text).toList = _
      rw [htext, String.toList_append, hlimit n hrest, hoffset]
      rfl

theorem length_query (f : Filter) : (query f).parameters.length =
    (criteria f).length + ((if limited f then 1 else 0) + if skips f then 1 else 0) := by
  unfold query limited skips filterValues
  cases f.limit <;> by_cases hskip : 0 < f.skip <;> simp [hskip]

variable {schema table : String} {t : TableName}

theorem placeholderNumbers_where (f : Filter) {rest : List Char} (hrest : EndsNumber rest) :
    placeholderNumbers ((" WHERE TRUE" ++ criteriaText 1 (criteria f)).toList ++ rest) =
      List.range' 1 (criteria f).length ++ placeholderNumbers rest := by
  rw [String.toList_append, List.append_assoc, placeholderNumbers_append (by decide),
    placeholderNumbers_criteriaText 1 (question_mem f) hrest]

theorem placeholderNumbers_query (h : TableName.create schema table = .ok t) (f : Filter) :
    placeholderNumbers ((query f).command.text t).toList =
      List.range' 1 (query f).parameters.length := by
  have hbehind (s : String) : EndsNumber (" ORDER BY id" ++ s).toList := by
    rw [String.toList_append]
    exact endsNumber_append (by decide) _
  have hwindow := placeholderNumbers_window (limited f) (skips f) ((criteria f).length + 1)
  rw [Nat.add_right_comm] at hwindow
  have hsplit (n k : Nat) : List.range' 1 n ++ List.range' (n + 1) k = List.range' 1 (n + k) := by
    rw [Nat.add_comm n 1, List.range'_append_1]
  rw [Command.placeholderNumbers_text h, rest_query, ← String.append_assoc,
    String.toList_append, placeholderNumbers_where f (hbehind _), String.toList_append,
    placeholderNumbers_append (by decide), hwindow, length_query, hsplit]

theorem placeholderNumbers_count (h : TableName.create schema table = .ok t) (f : Filter) :
    placeholderNumbers ((count f).command.text t).toList =
      List.range' 1 (count f).parameters.length := by
  have hrest : (count f).command.rest = " WHERE TRUE" ++ criteriaText 1 (criteria f) :=
    text_conditions f
  have hwhere := placeholderNumbers_where f endsNumber_nil
  rw [List.append_nil, ← hrest] at hwhere
  rw [Command.placeholderNumbers_text h, hwhere]
  simp [placeholderNumbers, count, filterValues]

end Statement

end Delivery
