import Delivery.DeadLetter.Memory
import Delivery.Proofs.DeadLetter.EntryId
import Mathlib.Data.List.GetD
import Mathlib.Data.List.Induction
import Mathlib.Data.Nat.Digits.Lemmas

/-!
# Text, number and order of an id

The digits of an id are a number in base 32, so the texts that can be read, what they stand for and
how they compare are read off the digits. Twenty-six digits hold two bits more than an id. A text is
therefore written again as it was read, up to the case of its letters, exactly if its first digit
leaves these two bits alone. Main statement: `EntryId.text_agrees`.
-/

namespace Delivery.EntryId

/-! ### Digits that can be read -/

/-- A decimal digit or a letter of either case, apart from four letters that look like others. -/
def IsDigit (c : Char) : Prop :=
  ('0' ≤ c ∧ c ≤ '9' ∨ 'A' ≤ c ∧ c ≤ 'Z' ∨ 'a' ≤ c ∧ c ≤ 'z') ∧ c.toUpper ∉ ['I', 'L', 'O', 'U']

instance (c : Char) : Decidable (IsDigit c) := inferInstanceAs (Decidable (_ ∧ _))

variable {c : Char} {cs : List Char} {n : Nat}

theorem toNat_of_isDigit (h : IsDigit c) : c.toNat < 128 := by
  have hbelow {d : Char} (hd : c ≤ d) : c.toNat ≤ d.toNat := UInt32.le_iff_toNat_le.mp hd
  rcases h.1 with hc | hc | hc
  · exact Nat.lt_of_le_of_lt (hbelow hc.2) (by decide)
  · exact Nat.lt_of_le_of_lt (hbelow hc.2) (by decide)
  · exact Nat.lt_of_le_of_lt (hbelow hc.2) (by decide)

theorem toUpper_of_not_ascii (h : 128 ≤ c.toNat) : c.toUpper = c := by
  refine dif_neg fun hc => ?_
  have hle : c.toNat ≤ 'z'.toNat := UInt32.le_iff_toNat_le.mp hc.2
  exact absurd (Nat.le_trans h hle) (by decide)

theorem toUpper_mem_alphabet_iff (c : Char) : c.toUpper ∈ alphabet ↔ IsDigit c := by
  have hascii : ∀ n : Fin 128, (Char.ofNat n).toUpper ∈ alphabet ↔ IsDigit (Char.ofNat n) := by
    decide
  rcases Nat.lt_or_ge c.toNat 128 with hlt | hge
  · have h := hascii ⟨c.toNat, hlt⟩
    rwa [Char.ofNat_toNat] at h
  · have hall : alphabet.all (·.toNat < 128) = true := by decide
    have hbelow (h : c ∈ alphabet) : c.toNat < 128 := by simpa using List.all_eq_true.mp hall c h
    rw [toUpper_of_not_ascii hge]
    exact ⟨fun h => absurd (hbelow h) (Nat.not_lt_of_le hge),
      fun h => absurd (toNat_of_isDigit h) (Nat.not_lt_of_le hge)⟩

/-- The number that a digit stands for, whatever its case. -/
def digitNumber (c : Char) : Nat := alphabet.idxOf c.toUpper

theorem digitNumber_lt (h : IsDigit c) : digitNumber c < 32 :=
  List.idxOf_lt_length_iff.mpr ((toUpper_mem_alphabet_iff c).mpr h)

theorem digit_digitNumber (h : IsDigit c) : digit (digitNumber c) = c.toUpper := by
  have hlt : alphabet.idxOf c.toUpper < alphabet.length := digitNumber_lt h
  rw [digit, digitNumber, List.getD_eq_getElem _ _ hlt, List.getElem_idxOf]

theorem digitValue?_eq_some_iff : digitValue? c = some n ↔ IsDigit c ∧ digitNumber c = n := by
  have hmem : (digitValue? c).isSome = true ↔ IsDigit c :=
    List.isSome_idxOf?.trans (toUpper_mem_alphabet_iff c)
  have hnumber : digitNumber c = (digitValue? c).getD alphabet.length :=
    List.idxOf_eq_getD_idxOf? _ _
  rw [hnumber, ← hmem]
  cases digitValue? c <;> simp

/-! ### Numbers -/

/-- The number that digits stand for, the most significant one first. -/
def number (cs : List Char) : Nat := Nat.ofDigits 32 (cs.reverse.map digitNumber)

theorem number_concat (cs : List Char) (c : Char) :
    number (cs ++ [c]) = digitNumber c + 32 * number cs := by
  simp [number, Nat.ofDigits_cons]

theorem number_cons (c : Char) (cs : List Char) :
    number (c :: cs) = number cs + 32 ^ cs.length * digitNumber c := by
  simp [number, Nat.ofDigits_append]

theorem number_lt (h : ∀ c ∈ cs, IsDigit c) : number cs < 32 ^ cs.length := by
  have hlt := Nat.ofDigits_lt_base_pow_length (b := 32) (l := cs.reverse.map digitNumber)
    (by decide) (by simpa using fun c hc => digitNumber_lt (h c hc))
  rwa [List.length_map, List.length_reverse] at hlt

theorem digitsValue?_eq_some_iff :
    digitsValue? cs = some n ↔ (∀ c ∈ cs, IsDigit c) ∧ number cs = n := by
  -- from the last digit, as a text is written
  induction cs using List.reverseRecOn generalizing n with
  | nil => simp [digitsValue?, number]
  | append_singleton cs c ih =>
    rw [digitsValue?_concat, number_concat]
    constructor
    · intro h
      obtain ⟨q, hq, hc⟩ := Option.bind_eq_some_iff.mp h
      obtain ⟨d, hd, rfl⟩ := Option.map_eq_some_iff.mp hc
      obtain ⟨hall, rfl⟩ := ih.mp hq
      obtain ⟨hdigit, rfl⟩ := digitValue?_eq_some_iff.mp hd
      refine ⟨?_, Nat.add_comm _ _⟩
      simpa [or_imp, forall_and] using ⟨hall, hdigit⟩
    · rintro ⟨hall, rfl⟩
      have hq : digitsValue? cs = some (number cs) :=
        ih.mpr ⟨fun x hx => hall x (List.mem_append_left _ hx), rfl⟩
      have hd : digitValue? c = some (digitNumber c) :=
        digitValue?_eq_some_iff.mpr ⟨hall c (by simp), rfl⟩
      rw [hq, hd, Nat.add_comm]
      rfl

theorem digits_number (h : ∀ c ∈ cs, IsDigit c) :
    digits cs.length (number cs) = cs.map Char.toUpper := by
  induction cs using List.reverseRecOn with
  | nil => rfl
  | append_singleton cs c ih =>
    have hc : IsDigit c := h c (by simp)
    have hlt := digitNumber_lt hc
    have hquotient : (digitNumber c + 32 * number cs) / 32 = number cs := by omega
    have hremainder : (digitNumber c + 32 * number cs) % 32 = digitNumber c := by omega
    rw [List.length_append, List.length_singleton, digits, number_concat, hquotient, hremainder,
      ih fun x hx => h x (List.mem_append_left _ hx), digit_digitNumber hc, List.map_append,
      List.map_singleton]

theorem digits_inj {width m n : Nat} (hm : m < 32 ^ width) (hn : n < 32 ^ width) :
    digits width m = digits width n ↔ m = n := by
  refine ⟨fun h => ?_, fun h => h ▸ rfl⟩
  have hvalue := digitsValue?_digits hm
  rw [h, digitsValue?_digits hn] at hvalue
  exact (Option.some.inj hvalue).symm

/-- A first digit of at most seven leaves the two bits above the limit alone. -/
theorem number_lt_limit_iff (hlength : cs.length + 1 = textLength) (h : ∀ x ∈ cs, IsDigit x) :
    number (c :: cs) < limit ↔ digitNumber c ≤ 7 := by
  have hlimit : limit = 8 * 32 ^ cs.length := by
    rw [Nat.succ.inj hlength]
    decide
  have hpos : 0 < 32 ^ cs.length := Nat.pow_pos (by decide)
  have hfirst : number (c :: cs) / 32 ^ cs.length = digitNumber c := by
    rw [number_cons, Nat.add_mul_div_left _ _ hpos, Nat.div_eq_of_lt (number_lt h), Nat.zero_add]
  rw [hlimit, ← Nat.div_lt_iff_lt_mul hpos, hfirst, Nat.lt_succ_iff]

/-! ### Texts -/

variable {s : String} {a : EntryId}

/-- What can be read, and as what: the number of its digits, cut to the bits of an id. -/
theorem read_eq_ok_iff : read s = .ok a ↔ s.utf8ByteSize = textLength ∧
    (∀ c ∈ s.toList, IsDigit c) ∧ a = ⟨number s.toList % limit⟩ := by
  unfold read
  by_cases hsize : s.utf8ByteSize = textLength
  · rw [if_neg (not_not_intro hsize)]
    cases hvalue : digitsValue? s.toList with
    | none =>
      have hnot : ¬ ∀ c ∈ s.toList, IsDigit c := fun hall => by
        rw [digitsValue?_eq_some_iff.mpr ⟨hall, rfl⟩] at hvalue
        cases hvalue
      simp [hnot]
    | some n =>
      obtain ⟨hall, rfl⟩ := digitsValue?_eq_some_iff.mp hvalue
      exact ⟨fun h => ⟨hsize, hall, (Except.ok.inj h).symm⟩, fun h => by rw [h.2.2]⟩
  · simp [hsize]

theorem length_toList_of_isDigit (h : ∀ c ∈ s.toList, IsDigit c) :
    s.toList.length = s.utf8ByteSize := by
  have hone : s.toList.map (fun c => (String.utf8EncodeChar c).length) =
      s.toList.map fun _ => 1 := by
    refine List.map_congr_left fun c hc => ?_
    rw [String.length_utf8EncodeChar, Char.utf8Size_eq_one_iff, UInt32.le_iff_toNat_le]
    exact Nat.le_of_lt_succ (toNat_of_isDigit (h c hc))
  rw [← length_octets, octets, List.length_flatMap, hone]
  simp

/-- A text that can be read is written again in upper case exactly if nothing is cut off. -/
theorem text_eq_toUpper_iff (h : read s = .ok a) :
    a.text = s.toUpper ↔ number s.toList < limit := by
  obtain ⟨hsize, hall, rfl⟩ := read_eq_ok_iff.mp h
  have hlength : s.toList.length = textLength := (length_toList_of_isDigit hall).trans hsize
  have hnumber : number s.toList < 32 ^ textLength := hlength ▸ number_lt hall
  have hupper : s.toUpper = String.ofList (digits textLength (number s.toList)) := by
    rw [← hlength, digits_number hall, String.toUpper, ← String.toList_map, String.ofList_toList]
  have hcut : number s.toList % limit < 32 ^ textLength :=
    Nat.lt_of_le_of_lt (Nat.mod_le _ _) hnumber
  rw [hupper, text, String.ofList_inj, digits_inj hcut hnumber]
  exact Nat.mod_eq_iff_lt (by decide)

theorem text_eq_toUpper_iff_digit (h : read s = .ok a) :
    a.text = s.toUpper ↔ ∃ c, s.toList.head? = some c ∧ digitNumber c ≤ 7 := by
  obtain ⟨hsize, hall, -⟩ := read_eq_ok_iff.mp h
  have hlength : s.toList.length = textLength := (length_toList_of_isDigit hall).trans hsize
  rw [text_eq_toUpper_iff h]
  cases hchars : s.toList with
  | nil =>
    rw [hchars] at hlength
    cases hlength
  | cons c cs =>
    rw [hchars] at hlength hall
    rw [number_lt_limit_iff hlength fun x hx => hall x (List.mem_cons_of_mem c hx)]
    simp

/-- Dead letters in the order of the texts of their ids, byte by byte. -/
def inTextOrder (entries : List Entry) : List Entry :=
  entries.mergeSort fun a b => decide (octets a.id.text ≤ octets b.id.text)

theorem inTextOrder_eq_inOrder {entries : List Entry} (h : ∀ e ∈ entries, e.id.value < limit) :
    inTextOrder entries = MemoryStore.inOrder entries := by
  have hcompare : ∀ a ∈ entries, ∀ b ∈ entries,
      decide (octets a.id.text ≤ octets b.id.text) = decide (a.id.value ≤ b.id.value) :=
    fun a ha b hb => decide_eq_decide.mpr (octets_text_le_iff (h a ha) (h b hb))
  have hsame := List.map_mergeSort (f := fun e : Entry => e) hcompare
  rwa [List.map_id', List.map_id'] at hsame

/-- What is promised of the texts of ids. An id has 128 bits if its value is below the limit. -/
structure TextAgrees : Prop where
  length : ∀ a : EntryId, a.text.length = 26
  readBack : ∀ a : EntryId, a.value < limit → read a.text = .ok a
  order : ∀ a b : EntryId, a.value < limit → b.value < limit →
    (a.value < b.value ↔ octets a.text < octets b.text)
  rows : ∀ entries : List Entry, (∀ e ∈ entries, e.id.value < limit) →
    inTextOrder entries = MemoryStore.inOrder entries
  readable : ∀ s, (∃ a, read s = .ok a) ↔ s.utf8ByteSize = 26 ∧ ∀ c ∈ s.toList, IsDigit c
  -- Five bits a digit, the most significant first, and the bits above 128 are cut off.
  value : ∀ s a, read s = .ok a → a.value = number s.toList % 2 ^ 128
  upper : ∀ s a, read s = .ok a →
    (a.text = s.toUpper ↔ ∃ c, s.toList.head? = some c ∧ digitNumber c ≤ 7)

/-- The text of an id, its number and its place in the order agree. -/
theorem text_agrees : TextAgrees where
  length a := by rw [text, String.length_ofList, length_digits, textLength]
  readBack _ := read_text
  order _ _ ha hb := (octets_text_lt_iff ha hb).symm
  rows _ := inTextOrder_eq_inOrder
  readable s := by
    constructor
    · rintro ⟨a, h⟩
      have hread := read_eq_ok_iff.mp h
      exact ⟨hread.1, hread.2.1⟩
    · intro h
      exact ⟨_, read_eq_ok_iff.mpr ⟨h.1, h.2, rfl⟩⟩
  value s a h := by
    obtain ⟨-, -, rfl⟩ := read_eq_ok_iff.mp h
    rfl
  upper _ _ := text_eq_toUpper_iff_digit

example : read "8000000000000000000000000z" = .ok ⟨31⟩ := by rfl

end Delivery.EntryId
