import Mathlib.Data.List.Nodup
import Delivery.Proofs.Relational.Rows

/-!
# Filters as conditions

The conditions of a filter are known to hold of a record if and only if the filter accepts its dead
letter, as long as the times are whole microseconds and the filter asks for no more attempts than a
column holds.
-/

namespace Delivery

/-! ### Conditions by number -/

namespace Statement

variable (now : Timestamp)

/-- A criterion holds of a record. -/
def Criterion.hold (r : Record) (c : Criterion) : Bool := c.2.1.known? (r c.1) c.2.2 == some true

theorem getD_value (before after : List Value) (v : Value) :
    (before ++ v :: after).getD (before.length + 1 - 1) .null = v := by simp

/-- Numbered conditions find their values, wherever these stand in the list. -/
theorem hold_numbered (before after : List Value) (cs : List Criterion) (r : Record) :
    Conditions.hold now (before ++ (cs.map (·.2.2) ++ after)) (numbered (before.length + 1) cs) r =
      cs.all (Criterion.hold r) := by
  induction cs generalizing before with
  | nil => rfl
  | cons c cs ih =>
    have hrest := ih (before ++ [c.2.2])
    simp only [List.append_assoc, List.singleton_append, List.length_append,
      List.length_singleton] at hrest
    simp only [numbered, Conditions.hold, List.map_cons, List.cons_append, List.all_cons,
      Condition.known?, Term.value, getD_value] at hrest ⊢
    rw [hrest]
    rfl

theorem hold_conditions (f : Filter) (after : List Value) (r : Record) :
    (conditions f).hold now (filterValues f ++ after) r = (criteria f).all (Criterion.hold r) := by
  have hnumbered := hold_numbered now [] after (criteria f) r
  simp only [List.nil_append, List.length_nil, Nat.zero_add] at hnumbered
  rw [← hnumbered, conditions, filterValues]
  rfl

end Statement

/-! ### Criteria one by one -/

namespace Slot

open Statement

variable {start : Int} {s : Slot}

theorem hold_text {c : Column} {a b : String} (h : s.record start c = .text a) :
    Criterion.hold (s.record start) (c, .equal, .text b) = (a == b) := by
  simp only [Criterion.hold, h, Comparison.known?, Comparison.holds, octets_inj]
  by_cases hab : a = b <;> simp [hab]

theorem hold_optionalText {c : Column} {a : Option String} {b : String}
    (h : s.record start c = .optionalText a) :
    Criterion.hold (s.record start) (c, .equal, .text b) = (a == some b) := by
  cases a with
  | none =>
    have hnull : s.record start c = .null := h
    simp only [Criterion.hold, hnull]
    rfl
  | some a =>
    rw [hold_text (a := a) h]
    rfl

theorem reason_text_inj {r r' : Reason} : r.text = r'.text ↔ r = r' := by
  refine ⟨fun h => ?_, fun h => h ▸ rfl⟩
  have hread := Reason.read?_text r
  rw [h, Reason.read?_text] at hread
  exact (Option.some.inj hread).symm

theorem hold_reason (r : Reason) :
    Criterion.hold (s.record start) (.reason, .equal, .text r.text) = (s.entry.reason == r) := by
  rw [hold_text (a := s.entry.reason.text) rfl]
  by_cases h : s.entry.reason = r
  · simp [h]
  · have htext : ¬ s.entry.reason.text = r.text := fun heq => h (reason_text_inj.mp heq)
    simp [h, htext]

theorem hold_from (h : s.entry.enqueuedAt.IsWhole) {t : Timestamp} (ht : t.IsWhole) :
    Criterion.hold (s.record start) (.enqueuedAt, .atLeast, .stored t) =
      decide (t ≤ s.entry.enqueuedAt) := by
  have hvalue : s.record start .enqueuedAt = .time s.entry.enqueuedAt :=
    congrArg Value.time h
  have htime : Value.stored t = .time t := congrArg Value.time ht
  simp [Criterion.hold, hvalue, htime, Comparison.known?, Comparison.holds]

theorem hold_to (h : s.entry.enqueuedAt.IsWhole) {t : Timestamp} (ht : t.IsWhole) :
    Criterion.hold (s.record start) (.enqueuedAt, .atMost, .stored t) =
      decide (s.entry.enqueuedAt ≤ t) := by
  have hvalue : s.record start .enqueuedAt = .time s.entry.enqueuedAt :=
    congrArg Value.time h
  have htime : Value.stored t = .time t := congrArg Value.time ht
  simp [Criterion.hold, hvalue, htime, Comparison.known?, Comparison.holds]

theorem hold_replayed (b : Bool) :
    Criterion.hold (s.record start) (.replayed, .equal, .flag b) = (s.entry.replayed == b) := by
  have hvalue : s.record start .replayed = .flag s.entry.replayed := rfl
  simp only [Criterion.hold, hvalue]
  cases s.entry.replayed <;> cases b <;> rfl

theorem hold_attempts (n : Nat) :
    Criterion.hold (s.record start) (.attempts, .atLeast, .small n) =
      decide (min n Value.smallLimit ≤ min s.entry.attempts Value.smallLimit) := by
  have hvalue : s.record start .attempts =
      .number (min (s.entry.attempts : Int) Value.smallLimit) := rfl
  have hsmall : Value.small n = .number (min (n : Int) Value.smallLimit) := rfl
  simp only [Criterion.hold, hvalue, hsmall, Comparison.known?, Comparison.holds]
  by_cases h : min n Value.smallLimit ≤ min s.entry.attempts Value.smallLimit
  · have hint : min (n : Int) Value.smallLimit ≤ min (s.entry.attempts : Int) Value.smallLimit := by
      omega
    simp [h, hint]
  · have hint : ¬ min (n : Int) Value.smallLimit ≤
        min (s.entry.attempts : Int) Value.smallLimit := by
      omega
    simp [h, hint]

end Slot

/-! ### Filters -/

namespace Filter

/-- The two dates of a filter are whole microseconds. -/
structure IsWhole (f : Filter) : Prop where
  enqueuedFrom : ∀ t, f.enqueuedFrom = some t → t.IsWhole
  enqueuedTo : ∀ t, f.enqueuedTo = some t → t.IsWhole

variable {f : Filter} {start : Int} {s : Slot}

theorem holds_congr {α : Type} {o : Option α} {p q : α → Bool} (h : ∀ a, o = some a → p a = q a) :
    holds o p = holds o q := by
  cases o with
  | none => rfl
  | some a => exact h a rfl

theorem all_toList {α : Type} (o : Option α) (g : α → Statement.Criterion)
    (p : Statement.Criterion → Bool) :
    (o.map g).toList.all p = holds o fun a => p (g a) := by
  cases o <;> simp

theorem all_criteria (hs : s.entry.enqueuedAt.IsWhole) (hf : f.IsWhole) :
    (Statement.criteria f).all (Statement.Criterion.hold (s.record start)) =
      (holds f.messageType (s.entry.messageType == ·) &&
      holds f.reason (s.entry.reason == ·) &&
      holds f.enqueuedFrom (· ≤ s.entry.enqueuedAt) &&
      holds f.enqueuedTo (s.entry.enqueuedAt ≤ ·) &&
      holds f.replayed (s.entry.replayed == ·) &&
      holds f.sourceQueue (s.entry.sourceQueue == some ·) &&
      holds f.correlationId (s.entry.correlationId == some ·) &&
      holds f.minAttempts fun n =>
        decide (min n Value.smallLimit ≤ min s.entry.attempts Value.smallLimit)) := by
  have hfrom : (holds f.enqueuedFrom fun t =>
      Statement.Criterion.hold (s.record start) (.enqueuedAt, .atLeast, .stored t)) =
      holds f.enqueuedFrom (· ≤ s.entry.enqueuedAt) :=
    holds_congr fun t ht => Slot.hold_from hs (hf.enqueuedFrom t ht)
  have hto : (holds f.enqueuedTo fun t =>
      Statement.Criterion.hold (s.record start) (.enqueuedAt, .atMost, .stored t)) =
      holds f.enqueuedTo (s.entry.enqueuedAt ≤ ·) :=
    holds_congr fun t ht => Slot.hold_to hs (hf.enqueuedTo t ht)
  have hqueue (b : String) : Statement.Criterion.hold (s.record start)
      (.sourceQueue, .equal, .text b) = (s.entry.sourceQueue == some b) :=
    Slot.hold_optionalText rfl
  have hcorrelation (b : String) : Statement.Criterion.hold (s.record start)
      (.correlationId, .equal, .text b) = (s.entry.correlationId == some b) :=
    Slot.hold_optionalText rfl
  have htype (b : String) : Statement.Criterion.hold (s.record start)
      (.messageType, .equal, .text b) = (s.entry.messageType == b) := Slot.hold_text rfl
  simp only [Statement.criteria, List.all_append, all_toList, hfrom, hto, hqueue, hcorrelation,
    htype, Slot.hold_reason, Slot.hold_replayed, Slot.hold_attempts]

/-- What a filter accepts meets its conditions. -/
theorem criteria_of_accepts (hs : s.entry.enqueuedAt.IsWhole) (hf : f.IsWhole)
    (h : f.accepts s.entry = true) :
    (Statement.criteria f).all (Statement.Criterion.hold (s.record start)) = true := by
  rw [all_criteria hs hf]
  simp only [accepts, Bool.and_eq_true] at h ⊢
  obtain ⟨hothers, hattempts⟩ := h
  refine ⟨hothers, ?_⟩
  cases hmin : f.minAttempts with
  | none => rfl
  | some n =>
    rw [hmin, holds_some, decide_eq_true_eq] at hattempts
    rw [holds_some, decide_eq_true_eq]
    omega

/-- What meets the conditions is accepted, if the filter asks for attempts that a column holds. -/
theorem criteria_eq_accepts (hs : s.entry.enqueuedAt.IsWhole) (hf : f.IsWhole)
    (hmin : ∀ n, f.minAttempts = some n → n ≤ Value.smallLimit) :
    (Statement.criteria f).all (Statement.Criterion.hold (s.record start)) =
      f.accepts s.entry := by
  have hattempts : (holds f.minAttempts fun n =>
      decide (min n Value.smallLimit ≤ min s.entry.attempts Value.smallLimit)) =
      holds f.minAttempts (· ≤ s.entry.attempts) := by
    refine holds_congr fun n hn => ?_
    have hle := hmin n hn
    exact decide_eq_decide.mpr (by omega)
  rw [all_criteria hs hf, hattempts]
  rfl

end Filter

end Delivery
