import Delivery.Proofs.Relational.Tokens

/-!
# What decides the structure of a statement

All texts that the store sends are made of words that are the same for all tables and of quoted
names. The names are plain, so each of them is one token and the words around it are split as they
would be without it: the tokens of a text are a template that is filled with the names. Of a filter
the words depend only on which parts of it are set. Main statement: `TableName.structure_of_texts`.
-/

namespace Delivery

open Lexer

/-! ### Plain names -/

/-- One to 63 bytes, all of them ASCII letters, digits and underscores, and no digit first. -/
structure IsPlainName (s : String) : Prop where
  nonempty : 1 ≤ s.utf8ByteSize
  short : s.utf8ByteSize ≤ 63
  plain : ∀ c ∈ s.toList,
    'a' ≤ c ∧ c ≤ 'z' ∨ 'A' ≤ c ∧ c ≤ 'Z' ∨ '0' ≤ c ∧ c ≤ '9' ∨ c = '_'
  first : ∀ c, s.toList.head? = some c → ¬ ('0' ≤ c ∧ c ≤ '9')

theorem isAlpha_iff (c : Char) :
    c.isAlpha = true ↔ 'a' ≤ c ∧ c ≤ 'z' ∨ 'A' ≤ c ∧ c ≤ 'Z' := by
  have hupper : c.isUpper = true ↔ 'A' ≤ c ∧ c ≤ 'Z' := decide_eq_true_iff
  have hlower : c.isLower = true ↔ 'a' ≤ c ∧ c ≤ 'z' :=
    (Bool.and_eq_true_iff).trans (and_congr decide_eq_true_iff decide_eq_true_iff)
  have halpha : c.isAlpha = true ↔ c.isUpper = true ∨ c.isLower = true := Bool.or_eq_true_iff
  rw [halpha, hupper, hlower]
  exact or_comm

theorem isDigit_iff (c : Char) : c.isDigit = true ↔ '0' ≤ c ∧ c ≤ '9' := by
  simp only [Char.isDigit, Bool.and_eq_true, decide_eq_true_eq, ge_iff_le, Char.le_def]

theorem continuesIdentifier_iff (c : Char) : continuesIdentifier c = true ↔
    'a' ≤ c ∧ c ≤ 'z' ∨ 'A' ≤ c ∧ c ≤ 'Z' ∨ '0' ≤ c ∧ c ≤ '9' ∨ c = '_' := by
  simp only [continuesIdentifier, Char.isAlphanum, Bool.or_eq_true, isAlpha_iff, isDigit_iff,
    beq_iff_eq, or_assoc]

theorem startsIdentifier_iff (c : Char) :
    startsIdentifier c = true ↔ continuesIdentifier c = true ∧ ¬ ('0' ≤ c ∧ c ≤ '9') := by
  have hapart : c.isAlpha = true → ¬ ('0' ≤ c ∧ c ≤ '9') := by
    rw [isAlpha_iff]
    simp only [Char.le_def, UInt32.le_iff_toNat_le]
    show _ → ¬ (48 ≤ c.val.toNat ∧ c.val.toNat ≤ 57)
    rintro (⟨hlow, hhigh⟩ | ⟨hlow, hhigh⟩)
    · have hstart : 97 ≤ c.val.toNat := hlow
      omega
    · have hstart : 65 ≤ c.val.toNat := hlow
      omega
  rw [← isDigit_iff] at hapart ⊢
  simp only [startsIdentifier, continuesIdentifier, Char.isAlphanum, Bool.or_eq_true, beq_iff_eq]
  constructor
  · rintro (halpha | rfl)
    · exact ⟨.inl (.inl halpha), hapart halpha⟩
    · exact ⟨.inr rfl, by decide⟩
  · rintro ⟨(halpha | hdigit) | hunderscore, hno⟩
    · exact .inl halpha
    · exact absurd hdigit hno
    · exact .inr hunderscore

theorem isIdentifier_iff (s : String) : isIdentifier s = true ↔ IsPlainName s := by
  unfold isIdentifier
  cases hchars : s.toList with
  | nil =>
    have hempty : s.utf8ByteSize = 0 :=
      String.utf8ByteSize_eq_zero_iff.mpr (String.toList_eq_nil_iff.mp hchars)
    refine iff_of_false nofun fun h => ?_
    have hsome := h.nonempty
    omega
  | cons c rest =>
    have hsize : 1 ≤ s.utf8ByteSize := by
      refine Nat.one_le_iff_ne_zero.mpr fun hzero => ?_
      rw [String.utf8ByteSize_eq_zero_iff.mp hzero] at hchars
      cases hchars
    simp only [Bool.and_eq_true, decide_eq_true_eq, List.all_eq_true, startsIdentifier_iff]
    constructor
    · rintro ⟨⟨⟨hcontinues, hfirst⟩, hrest⟩, hshort⟩
      refine ⟨hsize, hshort, ?_, ?_⟩
      · rw [hchars]
        intro d hd
        rw [← continuesIdentifier_iff]
        rcases List.mem_cons.mp hd with rfl | hd
        · exact hcontinues
        · exact hrest d hd
      · rw [hchars]
        rintro _ ⟨⟩
        exact hfirst
    · rintro ⟨-, hshort, hplain, hfirst⟩
      rw [hchars] at hplain hfirst
      refine ⟨⟨⟨?_, hfirst c rfl⟩, fun d hd => ?_⟩, hshort⟩
      · exact (continuesIdentifier_iff c).mpr (hplain c List.mem_cons_self)
      · exact (continuesIdentifier_iff d).mpr (hplain d (List.mem_cons_of_mem c hd))

/-! ### Templates -/

/-- A name that a text holds. -/
inductive NameSlot where
  | schema
  | table
  | index (column : Column)
  deriving DecidableEq, Repr

def NameSlot.fill (t : TableName) : NameSlot → String
  | schema => t.schema
  | table => t.table
  | index c => Definition.indexName t c

/-- A part of a text that is made for all tables. -/
inductive TextPart where
  | words (text : String)
  | slot (s : NameSlot)
  deriving DecidableEq, Repr

def TextPart.fill (t : TableName) : TextPart → Fragment
  | words s => .words s
  | slot s => .name (s.fill t)

/-- A token that is the same for all tables, or a name. -/
inductive TemplateToken where
  | fixed (token : Token)
  | slot (s : NameSlot)
  deriving DecidableEq, Repr

def TemplateToken.fill (t : TableName) : TemplateToken → Token
  | fixed token => token
  | slot s => .name (s.fill t)

def TextPart.pieces : TextPart → List TemplateToken
  | words s => (tokens s).map .fixed
  | slot s => [.slot s]

theorem TextPart.fragmentTokens_fill (t : TableName) (p : TextPart) :
    fragmentTokens (p.fill t) = p.pieces.map (TemplateToken.fill t) := by
  cases p with
  | words s =>
    simp only [TextPart.fill, fragmentTokens, pieces, List.map_map]
    exact (List.map_id _).symm
  | slot s => rfl

/-- The tokens of a text that is made of parts are a template for all tables, filled with names. -/
theorem tokens_of_parts {t : TableName} {parts : List TextPart}
    (h : Alternating true (parts.map (TextPart.fill t))) :
    tokens (Fragment.join (parts.map (TextPart.fill t))) =
      (parts.flatMap TextPart.pieces).map (TemplateToken.fill t) := by
  rw [tokens_join h, List.flatMap_map, List.map_flatMap]
  exact congrArg (parts.flatMap ·) (funext (TextPart.fragmentTokens_fill t))

/-! ### Texts -/

def tableParts : List TextPart := [.slot .schema, .words ".", .slot .table]

namespace Command

/-- The text of a command, for all tables. -/
def parts (c : Command) : List TextPart := .words c.verb.text :: tableParts ++ [.words c.rest]

theorem text_eq_join (t : TableName) (c : Command) :
    c.text t = Fragment.join (c.parts.map (TextPart.fill t)) := by
  rw [text_eq]
  simp [parts, tableParts, TextPart.fill, NameSlot.fill, Fragment.join, Fragment.text,
    TableName.text, TableName.fragments, String.append_assoc]

theorem head_rest (c : Command) : c.rest.toList.head? = some ' ' := by
  cases c <;> simp [rest, Conditions.text]

end Command

namespace Definition

def parts : Definition → List TextPart
  | schema => [.words "CREATE SCHEMA IF NOT EXISTS ", .slot .schema]
  | table =>
    .words "CREATE TABLE IF NOT EXISTS " :: tableParts ++ [.words (" (" ++ columns ++ ")")]
  | index c =>
    [.words "CREATE INDEX IF NOT EXISTS ", .slot (.index c), .words " ON "] ++ tableParts ++
      [.words (" (" ++ c.name ++ ", " ++ Column.enqueuedAt.name ++ ")")]

theorem text_eq_join (t : TableName) (d : Definition) :
    d.text t = Fragment.join (d.parts.map (TextPart.fill t)) := by
  cases d <;> rfl

end Definition

/-! ### Tokens of the texts -/

theorem alternating_words {s : String} {rest : List Fragment} (hhead : s.toList.head? ≠ some '"')
    (hne : s.toList ≠ []) (hready : Ready (reading .between s.toList))
    (h : Alternating false rest) : Alternating true (.words s :: rest) :=
  .words hne hhead (fun _ => hready) h

theorem alternating_last {s : String} (h : s.toList.head? = some ' ') :
    Alternating true [.words s] := by
  refine .words (fun hnil => ?_) ?_ (fun hno => absurd rfl hno) (.nil false)
  · rw [hnil] at h
    cases h
  · rw [h]
    exact nofun

theorem alternating_table {t : TableName} (hschema : isIdentifier t.schema = true)
    (htable : isIdentifier t.table = true) {s : String} (hs : s.toList.head? = some ' ') :
    Alternating false ((tableParts ++ [TextPart.words s]).map (TextPart.fill t)) :=
  .name (quote_not_mem_of_isIdentifier hschema)
    (alternating_words (by decide) (by decide) (by decide)
      (.name (quote_not_mem_of_isIdentifier htable) (alternating_last hs)))

theorem Verb.ready (v : Verb) : v.text.toList.head? ≠ some '"' ∧ v.text.toList ≠ [] ∧
    Ready (reading .between v.text.toList) := by
  cases v <;> decide +kernel

namespace Command

theorem tokens_text {t : TableName} (hschema : isIdentifier t.schema = true)
    (htable : isIdentifier t.table = true) (c : Command) :
    tokens (c.text t) = (c.parts.flatMap TextPart.pieces).map (TemplateToken.fill t) := by
  obtain ⟨hhead, hne, hready⟩ := c.verb.ready
  rw [text_eq_join]
  exact tokens_of_parts
    (alternating_words hhead hne hready (alternating_table hschema htable c.head_rest))

end Command

namespace Definition

theorem tokens_text {t : TableName} (hschema : isIdentifier t.schema = true)
    (htable : isIdentifier t.table = true) (d : Definition) :
    tokens (d.text t) = (d.parts.flatMap TextPart.pieces).map (TemplateToken.fill t) := by
  rw [text_eq_join]
  refine tokens_of_parts ?_
  cases d with
  | schema =>
    exact alternating_words (by decide +kernel) (by decide +kernel) (by decide +kernel)
      (.name (quote_not_mem_of_isIdentifier hschema) (.nil true))
  | table =>
    refine alternating_words (by decide +kernel) (by decide +kernel) (by decide +kernel)
      (alternating_table hschema htable ?_)
    rw [String.toList_append, String.toList_append]
    rfl
  | index c =>
    refine alternating_words (by decide +kernel) (by decide +kernel) (by decide +kernel)
      (.name (quote_not_mem_indexName htable c)
        (alternating_words (by decide +kernel) (by decide +kernel) (by decide +kernel)
          (alternating_table hschema htable ?_)))
    simp

end Definition

/-! ### Filters -/

/-- Which criteria a filter sets. -/
def Filter.outline (f : Filter) : List Bool :=
  [f.messageType.isSome, f.reason.isSome, f.enqueuedFrom.isSome, f.enqueuedTo.isSome,
   f.replayed.isSome, f.sourceQueue.isSome, f.correlationId.isSome, f.minAttempts.isSome]

namespace Statement

theorem map_question {α : Type} (o : Option α) (c : Column) (op : Comparison) (value : α → Value) :
    (o.map fun a => (c, op, value a)).toList.map question =
      if o.isSome then [(c, op)] else [] := by
  cases o with
  | none => rfl
  | some a => rfl

/-- The questions of a filter are those that its outline marks. -/
theorem questions_criteria (f : Filter) : (criteria f).map question =
    (f.outline.zip questions).flatMap fun p => if p.1 then [p.2] else [] := by
  simp only [criteria, List.map_append, map_question]
  simp [Filter.outline, questions]

variable {f f' : Filter}

theorem conditions_congr (h : f.outline = f'.outline) :
    conditions f = conditions f' ∧ (criteria f).length = (criteria f').length := by
  have hquestions : (criteria f).map question = (criteria f').map question := by
    rw [questions_criteria, questions_criteria, h]
  refine ⟨?_, by simpa using congrArg List.length hquestions⟩
  rw [conditions, conditions, numbered_congr 1 hquestions]

theorem count_congr (h : f.outline = f'.outline) : (count f).command = (count f').command := by
  rw [count, count, (conditions_congr h).1]

theorem query_congr (h : f.outline = f'.outline) (hlimit : f.limit.isSome = f'.limit.isSome)
    (hskip : 0 < f.skip ↔ 0 < f'.skip) : (query f).command = (query f').command := by
  obtain ⟨hconditions, hlength⟩ := conditions_congr h
  have hlimited : limited f = limited f' := hlimit
  have hskips : skips f = skips f' := decide_eq_decide.mpr hskip
  rw [query_eq, query_eq, hconditions, hlength, hlimited, hskips]

end Statement

/-! ### All together -/

/-- Exactly the plain names are accepted. Of all commands, the two of any filter among them, and of
all definitions the texts for any two tables are split into the same tokens but for the names in
quotes. Filters with the same parts set have the same texts. -/
theorem TableName.structure_of_texts :
    (∀ schema table, (∃ t, create schema table = .ok t) ↔
      IsPlainName schema ∧ IsPlainName table) ∧
    (∀ c : Command, ∃ template : List TemplateToken, ∀ schema table t,
      create schema table = .ok t →
      tokens (c.text t) = template.map (TemplateToken.fill ⟨schema, table⟩)) ∧
    (∀ d : Definition, ∃ template : List TemplateToken, ∀ schema table t,
      create schema table = .ok t →
      tokens (d.text t) = template.map (TemplateToken.fill ⟨schema, table⟩)) ∧
    (∀ f f' : Filter, f.outline = f'.outline → ∀ t,
      (Statement.count f).command.text t = (Statement.count f').command.text t ∧
      (f.limit.isSome = f'.limit.isSome → (0 < f.skip ↔ 0 < f'.skip) →
        (Statement.query f).command.text t = (Statement.query f').command.text t)) := by
  refine ⟨fun schema table => ?_, fun c => ⟨c.parts.flatMap TextPart.pieces, ?_⟩,
    fun d => ⟨d.parts.flatMap TextPart.pieces, ?_⟩, fun f f' h t => ⟨?_, fun hlimit hskip => ?_⟩⟩
  · simp only [create_eq_ok_iff, ← isIdentifier_iff]
    constructor
    · rintro ⟨t, hschema, htable, -⟩
      exact ⟨hschema, htable⟩
    · rintro ⟨hschema, htable⟩
      exact ⟨_, hschema, htable, rfl⟩
  · intro schema table t h
    obtain ⟨hschema, htable, rfl⟩ := create_eq_ok_iff.mp h
    exact c.tokens_text hschema htable
  · intro schema table t h
    obtain ⟨hschema, htable, rfl⟩ := create_eq_ok_iff.mp h
    exact d.tokens_text hschema htable
  · rw [Statement.count_congr h]
  · rw [Statement.query_congr h hlimit hskip]

/-- Two tables, and two filters that differ in nothing but their values. -/
theorem TableName.structure_of_texts_twoTables :
    let first : TableName := ⟨"dispatch", "dead_letters"⟩
    let second : TableName := ⟨"_archive", "T2"⟩
    let orders : Filter := { messageType := some "order.placed", limit := some 50 }
    let odd : Filter := { messageType := some "x' OR 'a' = 'a", limit := some 1 }
    (IsPlainName "dispatch" ∧ IsPlainName "dead_letters") ∧
      (IsPlainName "_archive" ∧ IsPlainName "T2") ∧
      (∃ template : List TemplateToken,
        tokens ((Statement.query orders).command.text first) =
          template.map (TemplateToken.fill first) ∧
        tokens ((Statement.query odd).command.text second) =
          template.map (TemplateToken.fill second)) ∧
      (∃ template : List TemplateToken,
        tokens ((Definition.index .reason).text first) =
          template.map (TemplateToken.fill first) ∧
        tokens ((Definition.index .reason).text second) =
          template.map (TemplateToken.fill second)) ∧
      (Statement.count orders).command.text first =
        (Statement.count odd).command.text first := by
  intro first second orders odd
  obtain ⟨haccepted, hcommands, hdefinitions, hfilters⟩ := structure_of_texts
  have hfirst : create "dispatch" "dead_letters" = .ok first :=
    create_eq_ok_iff.mpr ⟨by decide +kernel, by decide +kernel, rfl⟩
  have hsecond : create "_archive" "T2" = .ok second :=
    create_eq_ok_iff.mpr ⟨by decide +kernel, by decide +kernel, rfl⟩
  obtain ⟨template, htemplate⟩ := hcommands (Statement.query orders).command
  have hquery := (hfilters orders odd rfl second).2 rfl Iff.rfl
  refine ⟨(haccepted _ _).mp ⟨_, hfirst⟩, (haccepted _ _).mp ⟨_, hsecond⟩,
    ⟨template, htemplate _ _ _ hfirst, ?_⟩, ?_, (hfilters orders odd rfl first).1⟩
  · rw [← hquery]
    exact htemplate _ _ _ hsecond
  · obtain ⟨template, htemplate⟩ := hdefinitions (.index .reason)
    exact ⟨template, htemplate _ _ _ hfirst, htemplate _ _ _ hsecond⟩

-- With a name that is refused the conditions would be lost in a comment.
example : tokens ((Statement.release ⟨0⟩).command.text ⟨"s", "t\" --"⟩) =
    [.word "UPDATE".toList, .name "s", .symbol ['.'], .name "t"] := by decide +kernel

end Delivery
