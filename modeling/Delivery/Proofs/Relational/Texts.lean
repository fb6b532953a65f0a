import Mathlib.Data.List.Infix
import Delivery.Relational.Store

/-!
# The texts of statements

No two commands of the store have the same text, so a text can be taken for the command it is the
text of (`Statement.command_eq_of_text`). Texts are taken apart from the left: where the first parts
of two texts come from a list in which none begins another, equal texts have equal first parts.
-/

namespace Delivery

/-- None of these texts begins another one. -/
def PrefixFree (heads : List String) : Prop :=
  ∀ v ∈ heads, ∀ w ∈ heads, v.toList <+: w.toList → v = w

theorem PrefixFree.append_inj {heads : List String} (hfree : PrefixFree heads) {v w x y : String}
    (hv : v ∈ heads) (hw : w ∈ heads) (h : v ++ x = w ++ y) : v = w ∧ x = y := by
  have hchars : v.toList ++ x.toList = w.toList ++ y.toList := by
    rw [← String.toList_append, ← String.toList_append, h]
  have hsame : v = w := by
    have hleft : v.toList <+: v.toList ++ x.toList := List.prefix_append _ _
    have hright : w.toList <+: v.toList ++ x.toList := hchars ▸ List.prefix_append _ _
    rcases List.prefix_or_prefix_of_prefix hleft hright with hvw | hwv
    · exact hfree v hv w hw hvw
    · exact (hfree w hw v hv hwv).symm
  subst hsame
  exact ⟨rfl, (String.append_right_inj v).mp h⟩

theorem intercalate_cons (sep s : String) (l : List String) :
    sep.intercalate (s :: l) = s ++ String.join (l.map (sep ++ ·)) := by
  induction l generalizing s with
  | nil => simp
  | cons t l ih =>
    rw [String.intercalate_cons_cons, ih, List.map_cons, String.join_cons, String.append_assoc,
      String.append_assoc]

theorem Column.list_eq :
    Column.list = "id" ++ String.join ((ofEntry.tail.map name).map (", " ++ ·)) :=
  intercalate_cons _ _ _

/-! ### Around the name of the table -/

inductive Verb where
  | insertInto
  | selectFrom
  | countFrom
  | update
  | deleteFrom
  deriving DecidableEq

namespace Verb

def text : Verb → String
  | insertInto => "INSERT INTO "
  | selectFrom => "SELECT " ++ Column.list ++ " FROM "
  | countFrom => "SELECT COUNT(*) FROM "
  | update => "UPDATE "
  | deleteFrom => "DELETE FROM "

def all : List Verb := [insertInto, selectFrom, countFrom, update, deleteFrom]

theorem mem_all (v : Verb) : v ∈ all := by cases v <;> decide

/-- The list of the columns begins with the id, so it does not begin as the count does. -/
theorem toList_columns : ∃ chars, Column.list.toList = 'i' :: chars := by
  rw [Column.list_eq, String.toList_append]
  exact ⟨_, rfl⟩

theorem eq_of_begins {v w : Verb} (h : v.text.toList <+: w.text.toList) : v = w := by
  obtain ⟨chars, hchars⟩ := toList_columns
  cases v <;> cases w <;> simp [text, hchars] at h <;> rfl

theorem prefixFree_text : PrefixFree (all.map text) := by
  intro v hv w hw h
  obtain ⟨v, -, rfl⟩ := List.mem_map.mp hv
  obtain ⟨w, -, rfl⟩ := List.mem_map.mp hw
  rw [eq_of_begins h]

theorem text_inj {v w : Verb} (h : v.text = w.text) : v = w :=
  eq_of_begins (h ▸ List.prefix_rfl)

end Verb

namespace Command

def verb : Command → Verb
  | insert => .insertInto
  | select _ _ _ _ => .selectFrom
  | count _ => .countFrom
  | update _ _ => .update
  | delete _ => .deleteFrom

/-- The text behind the name of the table. -/
def rest : Command → String
  | insert => " (" ++ Column.list ++ ") VALUES (" ++ placeholders ++ ")"
  | select conditions ordered limit offset =>
    Conditions.text conditions ++ ((if ordered then " ORDER BY id" else "") ++
      (clause " LIMIT " limit ++ clause " OFFSET " offset))
  | count conditions => Conditions.text conditions
  | update changes conditions =>
    " SET " ++ (", ".intercalate (changes.map fun c => c.1.name ++ " = " ++ c.2.text) ++
      Conditions.text conditions)
  | delete conditions => Conditions.text conditions

theorem text_eq (t : TableName) (c : Command) : c.text t = c.verb.text ++ (t.text ++ c.rest) := by
  cases c <;>
    simp [text, fragments, Fragment.join, TableName.text, verb, Verb.text, rest,
      TableName.fragments, Fragment.text, String.append_assoc]

theorem verb_and_rest {t : TableName} {c c' : Command} (h : c.text t = c'.text t) :
    c.verb = c'.verb ∧ c.rest = c'.rest := by
  rw [text_eq, text_eq] at h
  obtain ⟨hverb, htail⟩ := Verb.prefixFree_text.append_inj
    (List.mem_map_of_mem c.verb.mem_all) (List.mem_map_of_mem c'.verb.mem_all) h
  exact ⟨Verb.text_inj hverb, (String.append_right_inj t.text).mp htail⟩

end Command

/-! ### Criteria -/

namespace Statement

abbrev Criterion := Column × Comparison × Value

/-- The columns that filters ask about, each with its comparison. -/
def questions : List (Column × Comparison) :=
  [(.messageType, .equal), (.reason, .equal), (.enqueuedAt, .atLeast), (.enqueuedAt, .atMost),
   (.replayed, .equal), (.sourceQueue, .equal), (.correlationId, .equal), (.attempts, .atLeast)]

def question (c : Criterion) : Column × Comparison := (c.1, c.2.1)

def head (q : Column × Comparison) : String := " AND " ++ (q.1.name ++ (q.2.text ++ "$"))

theorem eq_of_begins : ∀ q ∈ questions, ∀ q' ∈ questions,
    (head q).toList <+: (head q').toList → q = q' := by
  simp [questions, head, Column.name, Comparison.text]

theorem prefixFree_heads : PrefixFree (questions.map head) := by
  intro v hv w hw h
  obtain ⟨q, hq, rfl⟩ := List.mem_map.mp hv
  obtain ⟨q', hq', rfl⟩ := List.mem_map.mp hw
  rw [eq_of_begins q hq q' hq' h]

theorem head_inj {q q' : Column × Comparison} (hq : q ∈ questions) (hq' : q' ∈ questions)
    (h : head q = head q') : q = q' :=
  eq_of_begins q hq q' hq' (h ▸ List.prefix_rfl)

/-- The text of criteria of which the first one has this number. -/
def criteriaText : Nat → List Criterion → String
  | _, [] => ""
  | n, c :: rest => head (question c) ++ (toString n ++ criteriaText (n + 1) rest)

theorem question_mem (f : Filter) : ∀ c ∈ criteria f, question c ∈ questions := by
  intro c hc
  simp only [criteria, List.mem_append, Option.mem_toList, Option.map_eq_some_iff] at hc
  rcases hc with (((((((⟨_, _, rfl⟩ | ⟨_, _, rfl⟩) | ⟨_, _, rfl⟩) | ⟨_, _, rfl⟩) | ⟨_, _, rfl⟩) |
    ⟨_, _, rfl⟩) | ⟨_, _, rfl⟩) | ⟨_, _, rfl⟩) <;> simp [question, questions]

theorem text_compare (c : Column) (op : Comparison) (n : Nat) :
    " AND " ++ (Condition.compare op (.column c) (.parameter n)).text =
      head (c, op) ++ toString n := by
  have hparameter : (Term.parameter n).text = "$" ++ toString n := rfl
  have hcolumn : (Term.column c).text = c.name := rfl
  rw [Condition.text, hparameter, hcolumn, head]
  simp only [String.append_assoc]

theorem text_numbered (n : Nat) (cs : List Criterion) :
    String.join ((numbered n cs).map fun c => " AND " ++ c.text) = criteriaText n cs := by
  induction cs generalizing n with
  | nil => rfl
  | cons c cs ih =>
    rw [numbered, List.map_cons, String.join_cons, text_compare, ih, String.append_assoc]
    rfl

theorem text_conditions (f : Filter) :
    Conditions.text (conditions f) = " WHERE TRUE" ++ criteriaText 1 (criteria f) := by
  have halways : Condition.always.text = "TRUE" := rfl
  have hhead : " WHERE " ++ Condition.always.text = " WHERE TRUE" := by simp [halways]
  rw [Conditions.text, conditions, List.map_cons, intercalate_cons, List.map_map,
    ← String.append_assoc, hhead]
  exact congrArg _ (text_numbered 1 (criteria f))

theorem numbered_congr (n : Nat) {cs cs' : List Criterion}
    (h : cs.map question = cs'.map question) : numbered n cs = numbered n cs' := by
  induction cs generalizing n cs' with
  | nil => rw [List.map_eq_nil_iff.mp h.symm]
  | cons c cs ih =>
    cases cs' with
    | nil => cases h
    | cons c' cs' =>
      obtain ⟨hquestion, hrest⟩ := List.cons.inj h
      obtain ⟨hcolumn, hop⟩ := Prod.mk.inj hquestion
      simp only [numbered, hcolumn, hop, ih (n + 1) hrest]

/-- Criteria can be read back from their text and what stands behind them. -/
theorem criteriaText_inj (n : Nat) {cs cs' : List Criterion} {x y : String}
    (hcs : ∀ c ∈ cs, question c ∈ questions) (hcs' : ∀ c ∈ cs', question c ∈ questions)
    (hx : ¬ " AND ".toList <+: x.toList) (hy : ¬ " AND ".toList <+: y.toList)
    (h : criteriaText n cs ++ x = criteriaText n cs' ++ y) :
    cs.map question = cs'.map question ∧ x = y := by
  have hbegins (n : Nat) (c : Criterion) (cs : List Criterion) (x : String) :
      " AND ".toList <+: (criteriaText n (c :: cs) ++ x).toList := by
    simp only [criteriaText, head, String.append_assoc, String.toList_append (s := " AND ")]
    exact List.prefix_append _ _
  induction cs generalizing n cs' with
  | nil =>
    cases cs' with
    | nil => exact ⟨rfl, by simpa [criteriaText] using h⟩
    | cons c' cs' =>
      refine absurd ?_ hx
      have hempty : criteriaText n [] ++ x = x := by simp [criteriaText]
      rw [← hempty, h]
      exact hbegins n c' cs' y
  | cons c cs ih =>
    cases cs' with
    | nil =>
      refine absurd ?_ hy
      have hempty : criteriaText n [] ++ y = y := by simp [criteriaText]
      rw [← hempty, ← h]
      exact hbegins n c cs x
    | cons c' cs' =>
      have hc : question c ∈ questions := hcs c List.mem_cons_self
      have hc' : question c' ∈ questions := hcs' c' List.mem_cons_self
      simp only [criteriaText, String.append_assoc] at h
      obtain ⟨hhead, hrest⟩ := prefixFree_heads.append_inj (List.mem_map_of_mem hc)
        (List.mem_map_of_mem hc') h
      obtain ⟨htail, hxy⟩ := ih (n + 1) (fun d hd => hcs d (List.mem_cons_of_mem c hd))
        (fun d hd => hcs' d (List.mem_cons_of_mem c' hd)) ((String.append_right_inj _).mp hrest)
      exact ⟨by rw [List.map_cons, List.map_cons, head_inj hc hc' hhead, htail], hxy⟩

/-! ### Windows -/

/-- The text of a window, of which the limit and the offset are there or not. -/
def windowText (limited skips : Bool) (limit offset : String) : String :=
  (if limited then " LIMIT " ++ limit else "") ++ if skips then " OFFSET " ++ offset else ""

theorem prefixFree_window : PrefixFree [" LIMIT ", " OFFSET "] := by simp [PrefixFree]

theorem windowText_inj {l o l' o' : Bool} {limit offset offset' : String}
    (h : windowText l o limit offset = windowText l' o' limit offset') : l = l' ∧ o = o' := by
  have hskips {s : String} {o o' : Bool} {x y : String}
      (h : s ++ (if o then " OFFSET " ++ x else "") = s ++ if o' then " OFFSET " ++ y else "") :
      o = o' := by
    have hrest := (String.append_right_inj s).mp h
    cases o <;> cases o' <;> simp at hrest ⊢
  have hapart {o : Bool} {x y : String}
      (h : " LIMIT " ++ x = if o then " OFFSET " ++ y else "") : False := by
    cases o with
    | false => simp at h
    | true =>
      obtain ⟨hhead, -⟩ := prefixFree_window.append_inj (by simp) (by simp) h
      exact absurd hhead (by decide)
  cases l with
  | false =>
    cases l' with
    | false => exact ⟨rfl, hskips h⟩
    | true =>
      simp only [windowText, Bool.false_eq_true, if_false, if_true, String.append_assoc,
        String.empty_append] at h
      exact (hapart h.symm).elim
  | true =>
    cases l' with
    | false =>
      simp only [windowText, Bool.false_eq_true, if_false, if_true, String.append_assoc,
        String.empty_append] at h
      exact (hapart h).elim
    | true => exact ⟨rfl, hskips h⟩

def limited (f : Filter) : Bool := f.limit.isSome

def skips (f : Filter) : Bool := decide (0 < f.skip)

/-- The shape of a query: which criteria it has, and whether it has a limit and an offset. -/
theorem query_eq (f : Filter) : (query f).command =
    .select (conditions f) true
      (if limited f then some (.parameter ((criteria f).length + 1)) else none)
      (if skips f then
        some (.parameter ((criteria f).length + (if limited f then 1 else 0) + 1)) else none) := by
  unfold query limited skips
  cases f.limit with
  | none => by_cases hskip : 0 < f.skip <;> simp [hskip]
  | some n => by_cases hskip : 0 < f.skip <;> simp [hskip]

theorem rest_query (f : Filter) : (query f).command.rest =
    " WHERE TRUE" ++ (criteriaText 1 (criteria f) ++ (" ORDER BY id" ++
      windowText (limited f) (skips f) (Term.parameter ((criteria f).length + 1)).text
        (Term.parameter ((criteria f).length + (if limited f then 1 else 0) + 1)).text)) := by
  rw [query_eq, Command.rest, text_conditions, String.append_assoc]
  cases limited f <;> cases skips f <;> rfl

theorem query_command_eq {f f' : Filter}
    (h : (query f).command.rest = (query f').command.rest) :
    (query f).command = (query f').command := by
  have hbehind (w : String) : ¬ " AND ".toList <+: (" ORDER BY id" ++ w).toList := by
    rw [String.toList_append]
    exact fun hp => absurd (List.prefix_of_prefix_length_le hp (List.prefix_append _ _)
      (by decide)) (by decide)
  rw [rest_query, rest_query] at h
  obtain ⟨hquestions, hwindow⟩ := criteriaText_inj 1 (question_mem f) (question_mem f')
    (hbehind _) (hbehind _) ((String.append_right_inj _).mp h)
  have hlength : (criteria f).length = (criteria f').length := by
    simpa using congrArg List.length hquestions
  rw [hlength] at hwindow
  obtain ⟨hlimited, hskips⟩ := windowText_inj ((String.append_right_inj _).mp hwindow)
  rw [query_eq, query_eq, hlength, hlimited, hskips, conditions, conditions,
    numbered_congr 1 hquestions]

theorem count_command_eq {f f' : Filter} (h : (count f).command.rest = (count f').command.rest) :
    (count f).command = (count f').command := by
  have htext (f : Filter) : (count f).command.rest =
      " WHERE TRUE" ++ (criteriaText 1 (criteria f) ++ "") := by
    rw [String.append_empty]
    exact text_conditions f
  rw [htext, htext] at h
  obtain ⟨hquestions, -⟩ := criteriaText_inj 1 (question_mem f) (question_mem f') (by decide)
    (by decide) ((String.append_right_inj _).mp h)
  rw [count, count, conditions, conditions, numbered_congr 1 hquestions]

/-! ### All statements -/

theorem get_ne_query (id : EntryId) (f : Filter) :
    (get id).command.rest ≠ (query f).command.rest := by
  rw [rest_query]
  intro h
  have hget : (get id).command.rest = " WHERE id" ++ " = $1" := by
    show (get ⟨0⟩).command.rest = " WHERE id" ++ " = $1"
    decide +kernel
  have hfree : PrefixFree [" WHERE id", " WHERE TRUE"] := by simp [PrefixFree]
  obtain ⟨hhead, -⟩ := hfree.append_inj (by simp) (by simp) (hget ▸ h)
  exact absurd hhead (by decide)

theorem claim_mark_release_apart :
    [(claim ⟨0⟩ 0).command.rest, (mark ⟨0⟩ ⟨0, false⟩).command.rest,
      (release ⟨0⟩).command.rest].Nodup := by decide +kernel

theorem purge_apart :
    (purge ⟨0, false⟩ true).command.rest ≠ (purge ⟨0, false⟩ false).command.rest := by
  decide +kernel

/-- Statements with the same text have the same command. -/
theorem command_eq_of_text {t : TableName} {lease lease' : Duration} {q q' : StoreRequest}
    (h : (ofRequest lease q).command.text t = (ofRequest lease' q').command.text t) :
    (ofRequest lease q).command = (ofRequest lease' q').command := by
  obtain ⟨hverb, hrest⟩ := Command.verb_and_rest h
  have hupdates := claim_mark_release_apart
  simp only [List.nodup_cons, List.mem_cons, List.not_mem_nil, or_false, not_or] at hupdates
  obtain ⟨⟨hclaimMark, hclaimRelease⟩, hmarkRelease, -⟩ := hupdates
  cases q with
  | insert e =>
    cases q' with
    | insert e' => rfl
    | _ => cases hverb
  | get id =>
    cases q' with
    | get id' => rfl
    | query f => exact absurd hrest (get_ne_query id f)
    | _ => cases hverb
  | query f =>
    cases q' with
    | get id => exact absurd hrest.symm (get_ne_query id f)
    | query f' => exact query_command_eq hrest
    | _ => cases hverb
  | count f =>
    cases q' with
    | count f' => exact count_command_eq hrest
    | _ => cases hverb
  | tryClaim id =>
    cases q' with
    | tryClaim id' => rfl
    | markReplayed id' time => exact absurd hrest hclaimMark
    | release id' => exact absurd hrest hclaimRelease
    | _ => cases hverb
  | markReplayed id time =>
    cases q' with
    | tryClaim id' => exact absurd hrest.symm hclaimMark
    | markReplayed id' time' => rfl
    | release id' => exact absurd hrest hmarkRelease
    | _ => cases hverb
  | release id =>
    cases q' with
    | tryClaim id' => exact absurd hrest.symm hclaimRelease
    | markReplayed id' time => exact absurd hrest.symm hmarkRelease
    | release id' => rfl
    | _ => cases hverb
  | purge cutoff replayedOnly =>
    cases q' with
    | purge cutoff' replayedOnly' =>
      cases replayedOnly <;> cases replayedOnly'
      · rfl
      · exact absurd hrest.symm purge_apart
      · exact absurd hrest purge_apart
      · rfl
    | _ => cases hverb

end Statement

end Delivery
