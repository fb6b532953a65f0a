import Delivery.Proofs.Relational.Placeholders
import Delivery.Relational.Schema

/-!
# Quoted names in the texts of statements

A text is read from the left, as quotes divide it: double quotes enclose a name and single quotes a
literal, and inside either two quotes stand for one. (The store writes no comments and no quotes of
other kinds.) The names of a definition are read from its text, and they are the names that it was
made of (`Definition.quotedNames_text`).
-/

namespace Delivery

/-- A character outside quotes, or all that stands between two quotes. -/
inductive Lexeme where
  | plain (c : Char)
  | quoted (quote : Char) (content : List Char)
  | unfinished (quote : Char) (content : List Char)
  deriving DecidableEq, Repr

/-- Where reading stands in a text. Behind a quote inside quotes it is open whether they end. -/
inductive Reading where
  | outside
  | within (quote : Char) (content : List Char)
  | closing (quote : Char) (content : List Char)
  deriving DecidableEq, Repr

def isQuote (c : Char) : Bool := c == '"' || c == '\''

namespace Reading

def quote? : Reading → Option Char
  | outside => none
  | within q _ | closing q _ => some q

def lexemes : Reading → List Char → List Lexeme
  | outside, [] => []
  | within q content, [] => [.unfinished q content]
  | closing q content, [] => [.quoted q content]
  | outside, c :: cs =>
    if isQuote c then (within c []).lexemes cs else .plain c :: outside.lexemes cs
  | within q content, c :: cs =>
    if c = q then (closing q content).lexemes cs else (within q (content ++ [c])).lexemes cs
  | closing q content, c :: cs =>
    if c = q then (within q (content ++ [q])).lexemes cs
    else .quoted q content ::
      if isQuote c then (within c []).lexemes cs else .plain c :: outside.lexemes cs

theorem lexemes_closing {q : Char} {content cs : List Char} (h : cs.head? ≠ some q) :
    (closing q content).lexemes cs = .quoted q content :: outside.lexemes cs := by
  cases cs with
  | nil => rfl
  | cons c cs =>
    have hne : ¬ c = q := by simpa using h
    simp only [lexemes, if_neg hne]

theorem lexemes_plain {cs : List Char} (h : cs.any isQuote = false) (rest : List Char) :
    outside.lexemes (cs ++ rest) = cs.map .plain ++ outside.lexemes rest := by
  induction cs with
  | nil => rfl
  | cons c cs ih =>
    obtain ⟨hc, hcs⟩ := Bool.or_eq_false_iff.mp (List.any_cons.symm.trans h)
    rw [List.cons_append, lexemes, hc, ih hcs]
    rfl

theorem lexemes_within {q : Char} {cs : List Char} (h : q ∉ cs) (content rest : List Char) :
    (within q content).lexemes (cs ++ q :: rest) = (closing q (content ++ cs)).lexemes rest := by
  induction cs generalizing content with
  | nil => rw [List.nil_append, lexemes, if_pos rfl, List.append_nil]
  | cons c cs ih =>
    obtain ⟨hc, hcs⟩ := not_or.mp (mt List.mem_cons.mpr h)
    have hne : ¬ c = q := fun heq => hc heq.symm
    rw [List.cons_append, lexemes, if_neg hne, ih hcs, List.append_assoc, List.singleton_append]

end Reading

/-! ### Names -/

def Lexeme.name? : Lexeme → Option String
  | .quoted '"' content => some (String.ofList content)
  | _ => none

/-- The names in double quotes, in the order in which they stand in a text. -/
def namesIn (cs : List Char) : List String := (Reading.outside.lexemes cs).filterMap Lexeme.name?

def quotedNames (text : String) : List String := namesIn text.toList

theorem Lexeme.name?_of_ne {q : Char} (h : q ≠ '"') (content : List Char) :
    (quoted q content).name? = none := by
  unfold name?
  split
  · rename_i heq
    cases heq
    exact absurd rfl h
  · rfl

/-- A text without double quotes has no names, unless it begins inside of them. -/
theorem filterMap_name?_lexemes {cs : List Char} (h : '"' ∉ cs) (r : Reading)
    (hr : r.quote? ≠ some '"') : (r.lexemes cs).filterMap Lexeme.name? = [] := by
  induction cs generalizing r with
  | nil =>
    cases r with
    | outside => rfl
    | within q content => rfl
    | closing q content =>
      have hq : q ≠ '"' := fun heq => hr (congrArg some heq)
      rw [Reading.lexemes, List.filterMap_cons_none (Lexeme.name?_of_ne hq content)]
      rfl
  | cons c cs ih =>
    obtain ⟨hc, hcs⟩ := not_or.mp (mt List.mem_cons.mpr h)
    have hne : some c ≠ some '"' := fun heq => hc (Option.some.inj heq).symm
    have hnext : ((if isQuote c then (Reading.within c []).lexemes cs
        else .plain c :: Reading.outside.lexemes cs)).filterMap Lexeme.name? = [] := by
      split
      · exact ih hcs _ hne
      · exact ih hcs .outside nofun
    cases r with
    | outside => exact hnext
    | within q content =>
      rw [Reading.lexemes]
      split
      · exact ih hcs _ hr
      · exact ih hcs _ hr
    | closing q content =>
      have hq : q ≠ '"' := fun heq => hr (congrArg some heq)
      rw [Reading.lexemes]
      split
      · exact ih hcs _ hr
      · rwa [List.filterMap_cons_none (Lexeme.name?_of_ne hq content)]

theorem namesIn_eq_nil {cs : List Char} (h : '"' ∉ cs) : namesIn cs = [] :=
  filterMap_name?_lexemes h .outside nofun

theorem namesIn_words {s : String} (h : s.toList.any isQuote = false) (rest : List Char) :
    namesIn (s.toList ++ rest) = namesIn rest := by
  have hplain : (s.toList.map Lexeme.plain).filterMap Lexeme.name? = [] := by
    rw [List.filterMap_map]
    exact List.filterMap_eq_nil_iff.mpr fun _ _ => rfl
  rw [namesIn, Reading.lexemes_plain h, List.filterMap_append, hplain, List.nil_append, namesIn]

theorem namesIn_name {s : String} (h : '"' ∉ s.toList) {rest : List Char}
    (hrest : rest.head? ≠ some '"') :
    namesIn ((Fragment.name s).text.toList ++ rest) = s :: namesIn rest := by
  have hchars : (Fragment.name s).text.toList ++ rest = '"' :: (s.toList ++ '"' :: rest) := by
    simp [Fragment.text]
  have hopen (cs : List Char) : Reading.outside.lexemes ('"' :: cs) =
      (Reading.within '"' []).lexemes cs := rfl
  rw [namesIn, hchars, hopen, Reading.lexemes_within h, List.nil_append,
    Reading.lexemes_closing hrest, List.filterMap_cons, namesIn]
  simp [Lexeme.name?]

/-! ### Definitions -/

theorem quote_not_mem_of_isIdentifier {s : String} (h : isIdentifier s = true) : '"' ∉ s.toList :=
  not_mem_of_isIdentifier (by decide) h

namespace TableName

variable {t : TableName}

theorem namesIn_fragments (hschema : isIdentifier t.schema = true)
    (htable : isIdentifier t.table = true) {rest : List Char} (hrest : '"' ∉ rest) :
    namesIn ((Fragment.join t.fragments).toList ++ rest) = [t.schema, t.table] := by
  have hchars : (Fragment.join t.fragments).toList ++ rest =
      (Fragment.name t.schema).text.toList ++ (".".toList ++
        ((Fragment.name t.table).text.toList ++ rest)) := by
    simp [Fragment.join, fragments, Fragment.text]
  have hend : rest.head? ≠ some '"' := fun heq => hrest (List.mem_of_head? heq)
  rw [hchars, namesIn_name (quote_not_mem_of_isIdentifier hschema) (by simp),
    namesIn_words (by decide), namesIn_name (quote_not_mem_of_isIdentifier htable) hend,
    namesIn_eq_nil hrest]

end TableName

namespace Definition

variable {t : TableName}

/-- The names that a definition is made of. -/
def names (t : TableName) : Definition → List String
  | schema => [t.schema]
  | table => [t.schema, t.table]
  | index c => [indexName t c, t.schema, t.table]

theorem quote_not_mem_name (c : Column) : '"' ∉ c.name.toList :=
  quote_not_mem_of_isIdentifier c.isIdentifier_name

theorem quote_not_mem_indexName (h : isIdentifier t.table = true) (c : Column) :
    '"' ∉ (indexName t c).toList := by
  simp [indexName, quote_not_mem_of_isIdentifier h, quote_not_mem_name]

theorem quote_not_mem_columns : '"' ∉ columns.toList :=
  not_mem_intercalate (by decide) fun s hs => by
    obtain ⟨c, -, rfl⟩ := List.mem_map.mp hs
    have hdefinition : '"' ∉ c.definition.toList := by cases c <;> decide
    simp [quote_not_mem_name, hdefinition]

theorem quotedNames_schema (hschema : isIdentifier t.schema = true) :
    quotedNames (schema.text t) = [t.schema] := by
  have hchars : (schema.text t).toList = "CREATE SCHEMA IF NOT EXISTS ".toList ++
      ((Fragment.name t.schema).text.toList ++ []) := by
    simp [text, fragments, Fragment.join, Fragment.text]
  rw [quotedNames, hchars, namesIn_words (by decide),
    namesIn_name (quote_not_mem_of_isIdentifier hschema) (by simp)]
  rfl

theorem quotedNames_table (hschema : isIdentifier t.schema = true)
    (htable : isIdentifier t.table = true) :
    quotedNames (table.text t) = [t.schema, t.table] := by
  -- The columns as any text: evaluated they are long.
  have hjoin (s : String) : (Fragment.join (.words "CREATE TABLE IF NOT EXISTS " ::
      t.fragments ++ [.words (" (" ++ s ++ ")")])).toList = "CREATE TABLE IF NOT EXISTS ".toList ++
        ((Fragment.join t.fragments).toList ++ (" (" ++ s ++ ")").toList) := by
    simp [Fragment.join, Fragment.text]
  have hend (s : String) (hs : '"' ∉ s.toList) : '"' ∉ (" (" ++ s ++ ")").toList := by simp [hs]
  rw [quotedNames, text, fragments, hjoin, namesIn_words (by decide),
    TableName.namesIn_fragments hschema htable (hend columns quote_not_mem_columns)]

theorem quotedNames_index (hschema : isIdentifier t.schema = true)
    (htable : isIdentifier t.table = true) (c : Column) :
    quotedNames ((index c).text t) = [indexName t c, t.schema, t.table] := by
  have hchars : ((index c).text t).toList = "CREATE INDEX IF NOT EXISTS ".toList ++
      ((Fragment.name (indexName t c)).text.toList ++ (" ON ".toList ++
        ((Fragment.join t.fragments).toList ++
          (" (" ++ c.name ++ ", " ++ Column.enqueuedAt.name ++ ")").toList))) := by
    simp [text, fragments, Fragment.join, Fragment.text]
  have hend : '"' ∉ (" (" ++ c.name ++ ", " ++ Column.enqueuedAt.name ++ ")").toList := by
    simp [quote_not_mem_name]
  rw [quotedNames, hchars, namesIn_words (by decide),
    namesIn_name (quote_not_mem_indexName htable c) (by simp), namesIn_words (by decide),
    TableName.namesIn_fragments hschema htable hend]

/-- The names in the text of a definition are those that it was made of. -/
theorem quotedNames_text (hschema : isIdentifier t.schema = true)
    (htable : isIdentifier t.table = true) (d : Definition) :
    quotedNames (d.text t) = d.names t := by
  cases d with
  | schema => exact quotedNames_schema hschema
  | table => exact quotedNames_table hschema htable
  | index c => exact quotedNames_index hschema htable c

end Definition

end Delivery
