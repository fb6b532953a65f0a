import Mathlib.Algebra.Order.Ring.Nat
import Mathlib.Data.List.Lex
import Delivery.DeadLetter.EntryId

/-!
# The text of an id

The text of an id reads back as the id, and the texts of ids, compared byte by byte, are in the
order of the ids. Both come from the digits, one at a time from the last one.
-/

namespace Delivery

/-- The bytes of a text in UTF-8. -/
def octets (s : String) : List UInt8 := s.toList.flatMap String.utf8EncodeChar

theorem octets_ofList (cs : List Char) :
    octets (String.ofList cs) = cs.flatMap String.utf8EncodeChar := by
  rw [octets, String.toList_ofList]

theorem toByteArray_eq (s : String) : s.toByteArray = (octets s).toByteArray := by
  conv => lhs; rw [← String.ofList_toList (s := s)]
  exact String.toByteArray_ofList

theorem octets_inj {s t : String} : octets s = octets t ↔ s = t := by
  refine ⟨fun h => ?_, fun h => h ▸ rfl⟩
  rw [← String.toByteArray_inj, toByteArray_eq s, toByteArray_eq t, h]

theorem length_octets (s : String) : (octets s).length = s.utf8ByteSize := by
  rw [String.utf8ByteSize, toByteArray_eq, List.size_toByteArray]

theorem octets_append (s t : String) : octets (s ++ t) = octets s ++ octets t := by
  rw [octets, String.toList_append, List.flatMap_append, octets, octets]

/-- Of two lists of one length the first difference decides, so a last element only counts when all
before it are the same. -/
theorem concat_lt_concat_iff (xs ys : List UInt8) (x y : UInt8) (h : xs.length = ys.length) :
    xs ++ [x] < ys ++ [y] ↔ xs < ys ∨ xs = ys ∧ x < y := by
  induction xs generalizing ys with
  | nil =>
    obtain rfl := List.length_eq_zero_iff.mp h.symm
    simp [List.cons_lt_cons_iff]
  | cons a xs ih =>
    cases ys with
    | nil => cases h
    | cons b ys =>
      have hlen : xs.length = ys.length := Nat.succ.inj h
      simp only [List.cons_append, List.cons_lt_cons_iff, ih ys hlen, List.cons.injEq]
      tauto

namespace EntryId

/-! ### Digits -/

def octet (n : Nat) : UInt8 := (digit n).val.toUInt8

theorem digitValue?_digit {n : Nat} (h : n < 32) : digitValue? (digit n) = some n := by
  have hall : ∀ n : Fin 32, digitValue? (digit n) = some n.val := by decide
  exact hall ⟨n, h⟩

theorem utf8EncodeChar_digit {n : Nat} (h : n < 32) :
    String.utf8EncodeChar (digit n) = [octet n] := by
  have hall : ∀ n : Fin 32, String.utf8EncodeChar (digit n) = [octet n] := by decide
  exact hall ⟨n, h⟩

theorem octet_lt_octet_iff {m n : Nat} (hm : m < 32) (hn : n < 32) :
    octet m < octet n ↔ m < n := by
  have hall : ∀ m n : Fin 32, octet m < octet n ↔ m.val < n.val := by decide
  exact hall ⟨m, hm⟩ ⟨n, hn⟩

def digitOctets (width n : Nat) : List UInt8 :=
  (digits width n).flatMap String.utf8EncodeChar

theorem digitOctets_succ (width n : Nat) :
    digitOctets (width + 1) n = digitOctets width (n / 32) ++ [octet (n % 32)] := by
  have hdigit := utf8EncodeChar_digit (Nat.mod_lt n (by omega : 0 < 32))
  simp only [digitOctets, digits, List.flatMap_append, List.flatMap_singleton, hdigit]

theorem length_digitOctets (width n : Nat) : (digitOctets width n).length = width := by
  induction width generalizing n with
  | zero => rfl
  | succ width ih => rw [digitOctets_succ, List.length_append, ih, List.length_singleton]

theorem digitsValue?_concat (cs : List Char) (c : Char) : digitsValue? (cs ++ [c]) =
    (digitsValue? cs).bind fun q => (digitValue? c).map (32 * q + ·) := by
  simp only [digitsValue?, List.foldlM_append, List.foldlM_cons, List.foldlM_nil, bind_pure]
  rfl

theorem digitsValue?_digits {width n : Nat} (h : n < 32 ^ width) :
    digitsValue? (digits width n) = some n := by
  induction width generalizing n with
  | zero =>
    have hzero : n = 0 := by simpa using h
    rw [hzero]
    rfl
  | succ width ih =>
    have hrest : n / 32 < 32 ^ width := by
      rw [Nat.pow_succ] at h
      exact Nat.div_lt_of_lt_mul (by omega)
    rw [digits, digitsValue?_concat, ih hrest, digitValue?_digit (Nat.mod_lt n (by omega))]
    simp only [Option.bind_some, Option.map_some, Option.some.injEq]
    omega

theorem digitOctets_lt_iff {width m n : Nat} (hm : m < 32 ^ width) (hn : n < 32 ^ width) :
    digitOctets width m < digitOctets width n ↔ m < n := by
  induction width generalizing m n with
  | zero =>
    have hzero (k : Nat) (hk : k < 32 ^ 0) : k = 0 := by simpa using hk
    rw [hzero m hm, hzero n hn]
    simp
  | succ width ih =>
    have hdiv {k : Nat} (hk : k < 32 ^ (width + 1)) : k / 32 < 32 ^ width := by
      rw [Nat.pow_succ] at hk
      exact Nat.div_lt_of_lt_mul (by omega)
    have hsame : digitOctets width (m / 32) = digitOctets width (n / 32) ↔ m / 32 = n / 32 := by
      refine ⟨fun h => ?_, fun h => by rw [h]⟩
      have hnot : ¬ m / 32 < n / 32 ∧ ¬ n / 32 < m / 32 := by
        rw [← ih (hdiv hm) (hdiv hn), ← ih (hdiv hn) (hdiv hm), h]
        exact ⟨List.lt_irrefl _, List.lt_irrefl _⟩
      omega
    rw [digitOctets_succ, digitOctets_succ, concat_lt_concat_iff _ _ _ _ (by
        rw [length_digitOctets, length_digitOctets]), ih (hdiv hm) (hdiv hn), hsame,
      octet_lt_octet_iff (Nat.mod_lt m (by omega)) (Nat.mod_lt n (by omega))]
    omega

/-! ### Ids -/

variable {a b : EntryId}

theorem octets_text (a : EntryId) : octets a.text = digitOctets textLength a.value := by
  rw [text, octets_ofList, digitOctets]

theorem lt_digits (h : a.value < limit) : a.value < 32 ^ textLength :=
  Nat.lt_of_lt_of_le h (by decide)

theorem utf8ByteSize_text (a : EntryId) : a.text.utf8ByteSize = textLength := by
  rw [← length_octets, octets_text, length_digitOctets]

theorem read_text (h : a.value < limit) : read a.text = .ok a := by
  have hchars : a.text.toList = digits textLength a.value := by rw [text, String.toList_ofList]
  unfold read
  rw [if_neg (by simp [utf8ByteSize_text]), hchars, digitsValue?_digits (lt_digits h)]
  simp only [Nat.mod_eq_of_lt h]

/-- Texts compared byte by byte are in the order of the ids. -/
theorem octets_text_lt_iff (ha : a.value < limit) (hb : b.value < limit) :
    octets a.text < octets b.text ↔ a.value < b.value := by
  rw [octets_text, octets_text, digitOctets_lt_iff (lt_digits ha) (lt_digits hb)]

theorem octets_text_le_iff (ha : a.value < limit) (hb : b.value < limit) :
    octets a.text ≤ octets b.text ↔ a.value ≤ b.value := by
  rw [← List.not_lt, octets_text_lt_iff hb ha, Nat.not_lt]

theorem text_inj (ha : a.value < limit) (hb : b.value < limit) : a.text = b.text ↔ a = b := by
  refine ⟨fun h => ?_, fun h => h ▸ rfl⟩
  have hread := read_text ha
  rw [h, read_text hb] at hread
  exact (Except.ok.inj hread).symm

end EntryId

end Delivery
