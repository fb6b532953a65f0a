import Mathlib.Data.List.Nodup
import Delivery.Proofs.DeadLetter.EntryId
import Delivery.Proofs.Relational.Quotes

/-!
# Identifiers that the database keeps apart

The database keeps the first bytes of an identifier and drops the rest, and it skips a definition
whose name, as far as it is kept, is taken in the schema. The names of the indexes are longer than
the name of the table, and only the latter is checked. Main statement
(`TableName.names_of_create`): all names are kept whole exactly up to 50 bytes for the name of the
table, and they differ in what is kept of them, so that nothing is skipped, exactly up to 59.
-/

namespace Delivery

/-- What the database keeps of an identifier. -/
def keptOf (name : String) : List UInt8 := (octets name).take identifierLimit

/-- The names that are taken in a schema when these are asked for one after the other. One that is
taken already is skipped. -/
def newNames (taken : List (List UInt8)) : List String → List String
  | [] => []
  | name :: rest =>
    if keptOf name ∈ taken then newNames taken rest
    else name :: newNames (keptOf name :: taken) rest

theorem newNames_length_le (taken : List (List UInt8)) (names : List String) :
    (newNames taken names).length ≤ names.length := by
  induction names generalizing taken with
  | nil => exact Nat.le_refl 0
  | cons name rest ih =>
    rw [newNames]
    split
    · exact Nat.le_succ_of_le (ih taken)
    · exact Nat.succ_le_succ (ih _)

/-- No name is skipped exactly if they differ from each other and from those taken. -/
theorem newNames_eq_self_iff (taken : List (List UInt8)) (names : List String) :
    newNames taken names = names ↔
      (names.map keptOf).Nodup ∧ ∀ name ∈ names, keptOf name ∉ taken := by
  induction names generalizing taken with
  | nil => simp [newNames]
  | cons name rest ih =>
    rw [newNames, List.map_cons, List.nodup_cons, List.forall_mem_cons]
    split
    · rename_i htaken
      refine iff_of_false (fun heq => ?_) fun h => h.2.1 htaken
      have hle := newNames_length_le taken rest
      rw [heq] at hle
      exact Nat.not_succ_le_self _ hle
    · rename_i hfree
      rw [List.cons.injEq, eq_self, true_and, ih]
      constructor
      · rintro ⟨hrest, hnew⟩
        refine ⟨⟨fun hmem => ?_, hrest⟩, hfree, fun other hother => ?_⟩
        · obtain ⟨other, hother, heq⟩ := List.mem_map.mp hmem
          exact hnew other hother (heq ▸ List.mem_cons_self)
        · exact fun hmem => hnew other hother (List.mem_cons_of_mem _ hmem)
      · rintro ⟨⟨hname, hrest⟩, -, hnew⟩
        refine ⟨hrest, fun other hother hmem => ?_⟩
        rcases List.mem_cons.mp hmem with heq | hmem
        · exact hname (List.mem_map.mpr ⟨other, hother, heq⟩)
        · exact hnew other hother hmem

/-! ### Names of a table and its indexes -/

/-- The name that a definition takes in the schema. The schema itself is not in it. -/
def Definition.relation? (t : TableName) : Definition → Option String
  | schema => none
  | table => some t.table
  | index c => some (indexName t c)

namespace TableName

variable {t : TableName}

/-- The names that the definitions of a table take in its schema, in their order. -/
def relations (t : TableName) : List String := Definition.all.filterMap (Definition.relation? t)

theorem relations_eq (t : TableName) : t.relations =
    [t.table, Definition.indexName t .reason, Definition.indexName t .replayed] := rfl

/-- What is added to the name of a table for an index. -/
def ending (c : Column) : List UInt8 := octets ("_" ++ c.name ++ "_idx")

theorem octets_indexName (t : TableName) (c : Column) :
    octets (Definition.indexName t c) = octets t.table ++ ending c := by
  have hsplit : Definition.indexName t c = t.table ++ ("_" ++ c.name ++ "_idx") := by
    simp only [Definition.indexName, String.append_assoc]
  rw [hsplit, octets_append, ending]

theorem utf8ByteSize_indexName (t : TableName) (c : Column) :
    (Definition.indexName t c).utf8ByteSize = t.table.utf8ByteSize + (ending c).length := by
  rw [← length_octets, octets_indexName, List.length_append, length_octets]

theorem isIdentifier_of_create {schema table : String} (h : create schema table = .ok t) :
    isIdentifier t.schema = true ∧ isIdentifier t.table = true := by
  obtain ⟨hschema, htable, rfl⟩ := create_eq_ok_iff.mp h
  exact ⟨hschema, htable⟩

theorem utf8ByteSize_le_of_isIdentifier {s : String} (h : isIdentifier s = true) :
    s.utf8ByteSize ≤ identifierLimit := by
  unfold isIdentifier at h
  split at h
  · cases h
  · exact of_decide_eq_true (Bool.and_eq_true_iff.mp h).2

section Kept

variable (h : t.table.utf8ByteSize ≤ identifierLimit)

include h

theorem keptOf_table : keptOf t.table = octets t.table :=
  List.take_of_length_le (by rwa [length_octets])

theorem keptOf_indexName (c : Column) : keptOf (Definition.indexName t c) =
    octets t.table ++ (ending c).take (identifierLimit - t.table.utf8ByteSize) := by
  rw [keptOf, octets_indexName, List.take_append, length_octets,
    List.take_of_length_le (by rwa [length_octets])]

/-- The endings of the two indexes begin alike and differ in their fourth byte. -/
theorem nodup_relations_iff : (t.relations.map keptOf).Nodup ↔ t.table.utf8ByteSize ≤ 59 := by
  have hroom : ∀ room ≤ identifierLimit, ([[], (ending .reason).take room,
      (ending .replayed).take room] : List (List UInt8)).Nodup ↔ 4 ≤ room := by
    decide +kernel
  have hkept : t.relations.map keptOf = [[],
      (ending .reason).take (identifierLimit - t.table.utf8ByteSize),
      (ending .replayed).take (identifierLimit - t.table.utf8ByteSize)].map
        (octets t.table ++ ·) := by
    simp only [relations_eq, List.map_cons, List.map_nil, keptOf_table h, keptOf_indexName h,
      List.append_nil]
  rw [hkept, List.nodup_map_iff (List.append_right_injective _), hroom _ (Nat.sub_le ..)]
  unfold identifierLimit at h ⊢
  omega

end Kept

/-- The longest name of a definition is that of the second index. -/
theorem names_within_iff (hschema : t.schema.utf8ByteSize ≤ identifierLimit) :
    (∀ d ∈ Definition.all, ∀ name ∈ d.names t, name.utf8ByteSize ≤ identifierLimit) ↔
      t.table.utf8ByteSize ≤ 50 := by
  have hreason : (ending .reason).length = 11 := by decide +kernel
  have hreplayed : (ending .replayed).length = 13 := by decide +kernel
  unfold identifierLimit at hschema ⊢
  simp only [Definition.all, Definition.names, List.mem_cons, List.not_mem_nil, or_false,
    forall_eq_or_imp, forall_eq, utf8ByteSize_indexName, hreason, hreplayed]
  omega

/-- What the database makes of the names in the definitions of a table. -/
structure NamesLaw (t : TableName) : Prop where
  quoted : ∀ d : Definition, quotedNames (d.text t) = d.names t
  -- They are kept whole up to a length of the table's name, and up to another they differ in what
  -- is kept of them.
  within_iff : (∀ d ∈ Definition.all, ∀ name ∈ quotedNames (d.text t),
    name.utf8ByteSize ≤ identifierLimit) ↔ t.table.utf8ByteSize ≤ 50
  apart_iff : (t.relations.map keptOf).Nodup ↔ t.table.utf8ByteSize ≤ 59
  -- Where none of them is taken, no definition is skipped exactly up to the same length.
  new_iff : ∀ taken, (∀ name ∈ t.relations, keptOf name ∉ taken) →
    (newNames taken t.relations = t.relations ↔ t.table.utf8ByteSize ≤ 59)

theorem names_of_create {schema table : String} (h : create schema table = .ok t) :
    t.NamesLaw := by
  obtain ⟨hschema, htable⟩ := isIdentifier_of_create h
  have hlimit := utf8ByteSize_le_of_isIdentifier htable
  have hquoted := Definition.quotedNames_text hschema htable
  refine ⟨hquoted, ?_, nodup_relations_iff hlimit, fun taken hfree => ?_⟩
  · simp only [hquoted]
    exact names_within_iff (utf8ByteSize_le_of_isIdentifier hschema)
  · rw [newNames_eq_self_iff, and_iff_left hfree]
    exact nodup_relations_iff hlimit

/-- A table of the usual name. -/
def deadLetters : TableName := ⟨"dispatch", "dead_letters"⟩

theorem names_of_create_deadLetters : create "dispatch" "dead_letters" = .ok deadLetters ∧
    deadLetters.NamesLaw ∧
    (∀ d ∈ Definition.all, ∀ name ∈ quotedNames (d.text deadLetters),
      name.utf8ByteSize ≤ identifierLimit) ∧
    newNames [] deadLetters.relations =
      ["dead_letters", "dead_letters_reason_idx", "dead_letters_replayed_idx"] := by
  have hcreate : create "dispatch" "dead_letters" = .ok deadLetters := by decide +kernel
  have hlaw := names_of_create hcreate
  refine ⟨hcreate, hlaw, hlaw.within_iff.mpr (by decide +kernel), ?_⟩
  rw [(hlaw.new_iff [] fun _ _ => List.not_mem_nil).mpr (by decide +kernel)]
  rfl

/-- A table with one of the longest names that are accepted. -/
def longest : TableName := ⟨"dispatch", String.ofList (List.replicate identifierLimit 'a')⟩

/-- The database takes both indexes of such a table for the table and makes neither. -/
theorem longest_name_clashes : create longest.schema longest.table = .ok longest ∧
    (∃ d ∈ Definition.all, ∃ name ∈ quotedNames (d.text longest),
      identifierLimit < name.utf8ByteSize) ∧
    keptOf (Definition.indexName longest .reason) = keptOf longest.table ∧
    keptOf (Definition.indexName longest .replayed) = keptOf longest.table ∧
    newNames [] longest.relations = [longest.table] := by
  have hschema : isIdentifier longest.schema = true := by decide
  have htable : isIdentifier longest.table = true := by decide +kernel
  have hsize : longest.table.utf8ByteSize = identifierLimit := by decide +kernel
  have hkept (c : Column) : keptOf (Definition.indexName longest c) = keptOf longest.table := by
    rw [keptOf_indexName hsize.le, keptOf_table hsize.le, hsize, Nat.sub_self, List.take_zero,
      List.append_nil]
  refine ⟨create_eq_ok_iff.mpr ⟨hschema, htable, rfl⟩,
    ⟨.index .replayed, by decide, Definition.indexName longest .replayed, ?_, ?_⟩,
    hkept .reason, hkept .replayed, ?_⟩
  · rw [Definition.quotedNames_text hschema htable]
    exact List.mem_cons_self
  · rw [utf8ByteSize_indexName, hsize]
    exact Nat.lt_add_of_pos_right (by decide)
  · simp [relations_eq, newNames, hkept]

end TableName

end Delivery
