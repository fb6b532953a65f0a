import Mathlib.Data.List.TakeWhile
import Delivery.Unicode.Blank
import Delivery.Unicode.Lowercase

/-!
# Trimmed texts in lower case

A form in lower case has no other form in lower case, and neither has what the characters of a
trimmed text become any blanks at its ends. So trimming and lower-casing do nothing more to a
trimmed text in lower case. Both treat the two cases of an ASCII letter alike.
-/

namespace Delivery.Unicode

/-! ### The table of cases -/

namespace CaseRun

def image (r : CaseRun) (n : Nat) : Nat := (n + r.shift).toNat

def low (r : CaseRun) : Nat := r.image r.first

def high (r : CaseRun) : Nat := r.image r.last

/-- What the first run maps to lies outside the second, or between its members. -/
def misses (r q : CaseRun) : Bool :=
  r.high.blt q.first || q.last.blt r.low ||
    q.stride = 2 && (r.stride = 2 || r.first = r.last) && (r.low + q.first) % 2 = 1

/-- The run maps to characters, none of them the dotted capital I or a blank. -/
def isProper (r : CaseRun) : Bool :=
  (r.stride = 1 || r.stride = 2) && 0 ≤ r.first + r.shift &&
    (r.high < 0xD800 || 0xDFFF < r.low && r.high < 0x110000) &&
    (r.high < 0x130 || 0x130 < r.low) &&
    blankRanges.all fun b => r.high < b.1 || b.2 < r.low

variable {r q : CaseRun} {n : Nat}

theorem covers_iff : r.covers n = true ↔
    r.first ≤ n ∧ n ≤ r.last ∧ (n - r.first) % r.stride = 0 := by
  simp [covers, and_assoc]

/-- Every member of a run lies as far above its first as its image above the lowest one. -/
theorem image_eq (hproper : r.isProper = true) (h : r.covers n = true) :
    r.image n = r.low + (n - r.first) ∧ r.image n ≤ r.high ∧
      (r.first = r.last → r.image n = r.low) := by
  simp only [isProper, Bool.and_eq_true, decide_eq_true_eq] at hproper
  have hfirst : 0 ≤ r.first + r.shift := hproper.1.1.1.2
  rw [covers_iff] at h
  unfold low high image
  omega

theorem not_covers_image (hproper : r.isProper = true) (hmiss : r.misses q = true)
    (h : r.covers n = true) : q.covers (r.image n) = false := by
  obtain ⟨himage, hhigh, hsingle⟩ := image_eq hproper h
  rw [covers_iff] at h
  rw [Bool.eq_false_iff, ne_eq, covers_iff]
  simp only [misses, Bool.or_eq_true, Bool.and_eq_true, Nat.blt_eq, decide_eq_true_eq] at hmiss
  rintro ⟨hfirst, hlast, hstep⟩
  rcases hmiss with (hbelow | habove) | ⟨⟨hq, hr⟩, hodd⟩
  · omega
  · omega
  · rw [hq] at hstep
    rcases hr with hr | hr
    · rw [hr] at h
      omega
    · have hlow := hsingle hr
      omega

theorem isValidChar_image (hproper : r.isProper = true) (h : r.covers n = true) :
    (r.image n).isValidChar := by
  obtain ⟨himage, hhigh, -⟩ := image_eq hproper h
  simp only [isProper, Bool.and_eq_true, Bool.or_eq_true, decide_eq_true_eq] at hproper
  rw [Nat.isValidChar]
  omega

theorem not_blank_image (hproper : r.isProper = true) (h : r.covers n = true) :
    ∀ b ∈ blankRanges, ¬ (b.1 ≤ r.image n ∧ r.image n ≤ b.2) := by
  obtain ⟨himage, hhigh, -⟩ := image_eq hproper h
  simp only [isProper, Bool.and_eq_true, Bool.or_eq_true, decide_eq_true_eq, List.all_eq_true]
    at hproper
  intro b hb
  have hapart := hproper.2 b hb
  omega

theorem image_ne_dotted (hproper : r.isProper = true) (h : r.covers n = true) :
    r.image n ≠ 0x130 := by
  obtain ⟨himage, hhigh, -⟩ := image_eq hproper h
  simp only [isProper, Bool.and_eq_true, Bool.or_eq_true, decide_eq_true_eq] at hproper
  omega

end CaseRun

theorem caseRuns_proper : ∀ r ∈ caseRuns, r.isProper = true := by
  rw [← List.all_eq_true]
  decide +kernel

theorem caseRuns_miss : ∀ r ∈ caseRuns, ∀ q ∈ caseRuns, r.misses q = true := by
  have hall : (caseRuns.all fun r => caseRuns.all r.misses) = true := by decide +kernel
  simpa only [List.all_eq_true] using hall

/-! ### Forms -/

/-- The character of this number is its own form in lower case. -/
def Settled (n : Nat) : Prop := n ≠ 0x130 ∧ ∀ r ∈ caseRuns, r.covers n = false

instance (n : Nat) : Decidable (Settled n) := inferInstanceAs (Decidable (_ ∧ _))

/-- What a character may become: some settled characters, not blank unless it is. -/
structure IsForm (c : Char) (form : List Char) : Prop where
  nonempty : form ≠ []
  settled : ∀ d ∈ form, Settled d.toNat
  notBlank : isBlank c = false → ∀ d ∈ form, isBlank d = false

theorem Settled.ne_sigma {n : Nat} (h : Settled n) : n ≠ 0x3A3 := by
  rintro rfl
  exact absurd h (by decide +kernel)

theorem lowerChar_of_settled {c : Char} (h : Settled c.toNat) : lowerChar c = [c] := by
  have hfind : caseRuns.find? (·.covers c.toNat) = none :=
    List.find?_eq_none.mpr fun r hr => by simp [h.2 r hr]
  rw [lowerChar, if_neg h.1, hfind]

theorem isForm_pair {c d e : Char} (hd : Settled d.toNat ∧ isBlank d = false)
    (he : Settled e.toNat ∧ isBlank e = false) : IsForm c [d, e] where
  nonempty := nofun
  settled := by simp [hd.1, he.1]
  notBlank _ := by simp [hd.2, he.2]

theorem isForm_single {c d : Char} (hd : Settled d.toNat)
    (hblank : isBlank c = false → isBlank d = false) : IsForm c [d] where
  nonempty := nofun
  settled := by simp [hd]
  notBlank hc := by simp [hblank hc]

theorem isForm_lowerChar (c : Char) : IsForm c (lowerChar c) := by
  by_cases hdotted : c.toNat = 0x130
  · rw [lowerChar, if_pos hdotted]
    exact isForm_pair (by decide +kernel) (by decide +kernel)
  rw [lowerChar, if_neg hdotted]
  cases hfind : caseRuns.find? (·.covers c.toNat) with
  | none =>
    refine isForm_single ⟨hdotted, fun r hr => ?_⟩ id
    simpa using List.find?_eq_none.mp hfind r hr
  | some r =>
    have hr : r ∈ caseRuns := List.mem_of_find?_eq_some hfind
    have hcovers := List.find?_some hfind
    have hproper := caseRuns_proper r hr
    have hnat : (Char.ofNat (r.image c.toNat)).toNat = r.image c.toNat := by
      rw [Char.ofNat, dif_pos (CaseRun.isValidChar_image hproper hcovers)]
      rfl
    refine isForm_single (d := Char.ofNat (r.image c.toNat)) ?_ fun _ => ?_
    · rw [hnat]
      exact ⟨CaseRun.image_ne_dotted hproper hcovers, fun q hq =>
        CaseRun.not_covers_image hproper (caseRuns_miss r hr q hq) hcovers⟩
    · rw [isBlank, inRanges, List.any_eq_false, hnat]
      intro b hb
      simpa using CaseRun.not_blank_image hproper hcovers b hb

/-! ### Texts -/

/-- The form of a character between its neighbours. -/
def formOf (before : List Char) (c : Char) (rest : List Char) : List Char :=
  if c.toNat = 0x3A3 then
    [if meetsCased before && !meetsCased rest then Char.ofNat 0x3C2 else Char.ofNat 0x3C3]
  else lowerChar c

theorem lowerAfter_cons (before : List Char) (c : Char) (rest : List Char) :
    lowerAfter before (c :: rest) = formOf before c rest ++ lowerAfter (c :: before) rest := rfl

theorem isForm_formOf (before : List Char) (c : Char) (rest : List Char) :
    IsForm c (formOf before c rest) := by
  unfold formOf
  split
  · split
    · exact isForm_single (by decide +kernel) fun _ => by decide
    · exact isForm_single (by decide +kernel) fun _ => by decide
  · exact isForm_lowerChar c

theorem settled_of_mem_lowerAfter {s : List Char} (before : List Char) :
    ∀ d ∈ lowerAfter before s, Settled d.toNat := by
  induction s generalizing before with
  | nil => exact fun _ hd => absurd hd List.not_mem_nil
  | cons c rest ih =>
    intro d hd
    rw [lowerAfter_cons] at hd
    rcases List.mem_append.mp hd with hform | hrest
    · exact (isForm_formOf before c rest).settled d hform
    · exact ih (c :: before) d hrest

theorem lowerAfter_of_settled {s : List Char} (h : ∀ d ∈ s, Settled d.toNat)
    (before : List Char) : lowerAfter before s = s := by
  induction s generalizing before with
  | nil => rfl
  | cons c rest ih =>
    obtain ⟨hc, hrest⟩ := List.forall_mem_cons.mp h
    rw [lowerAfter_cons, formOf, if_neg hc.ne_sigma, lowerChar_of_settled hc, ih hrest]
    rfl

theorem lower_lower (s : List Char) : lower (lower s) = lower s :=
  lowerAfter_of_settled (settled_of_mem_lowerAfter []) []

theorem lower_ne_nil {s : List Char} (h : s ≠ []) : lower s ≠ [] := by
  cases s with
  | nil => exact absurd rfl h
  | cons c rest =>
    rw [lower, lowerAfter_cons]
    exact List.append_ne_nil_of_left_ne_nil (isForm_formOf [] c rest).nonempty _

/-! ### Trimmed texts -/

/-- Neither the first nor the last character is blank. -/
structure Trimmed (s : List Char) : Prop where
  first : ∀ c, s.head? = some c → isBlank c = false
  last : ∀ c, s.getLast? = some c → isBlank c = false

theorem head?_trimLeft {s : List Char} {c : Char} (h : (trimLeft s).head? = some c) :
    isBlank c = false := by
  have hnot := List.head?_dropWhile_not isBlank s
  rw [trimLeft] at h
  rw [h] at hnot
  exact hnot

theorem trimmed_trim (s : List Char) : Trimmed (trim s) where
  first c hc := by
    have hprefix : trim s <+: trimLeft s := by
      have hsuffix := List.dropWhile_suffix isBlank (l := (trimLeft s).reverse)
      rw [← List.reverse_prefix] at hsuffix
      simpa [trim, trimLeft] using hsuffix
    obtain ⟨rest, hrest⟩ := hprefix
    refine head?_trimLeft (s := s) ?_
    rw [← hrest, List.head?_append, hc]
    rfl
  last c hc := by
    rw [trim, List.getLast?_reverse] at hc
    exact head?_trimLeft hc

theorem trimLeft_eq {s : List Char} (h : ∀ c, s.head? = some c → isBlank c = false) :
    trimLeft s = s := by
  cases s with
  | nil => rfl
  | cons c rest => simp [trimLeft, h c rfl]

theorem Trimmed.trim_eq {s : List Char} (h : Trimmed s) : trim s = s := by
  have hback : trimLeft s.reverse = s.reverse := trimLeft_eq fun c hc => by
    rw [List.head?_reverse] at hc
    exact h.last c hc
  rw [trim, trimLeft_eq h.first, hback, List.reverse_reverse]

theorem last_lowerAfter {s : List Char} (before : List Char)
    (h : ∀ c, s.getLast? = some c → isBlank c = false) :
    ∀ d, (lowerAfter before s).getLast? = some d → isBlank d = false := by
  induction s generalizing before with
  | nil => exact nofun
  | cons c rest ih =>
    intro d hd
    rw [lowerAfter_cons, List.getLast?_append] at hd
    cases hrest : (lowerAfter (c :: before) rest).getLast? with
    | some e =>
      -- The last character stands in the rest.
      have hsome : rest ≠ [] := by
        rintro rfl
        cases hrest
      rw [hrest, Option.some_or] at hd
      refine ih (c :: before) (fun a ha => h a ?_) d (hrest.trans hd)
      rw [List.getLast?_cons, ha]
      rfl
    | none =>
      -- Then there is no rest, and the last character stands in the form of `c`.
      have hnone : rest = [] := by
        cases rest with
        | nil => rfl
        | cons a more =>
          rw [List.getLast?_eq_none_iff, lowerAfter_cons] at hrest
          exact absurd (List.append_eq_nil_iff.mp hrest).1 (isForm_formOf _ a more).nonempty
      subst hnone
      rw [hrest, Option.none_or] at hd
      exact (isForm_formOf before c []).notBlank (h c rfl) d (List.mem_of_getLast? hd)

theorem Trimmed.lower {s : List Char} (h : Trimmed s) : Trimmed (lower s) where
  first d hd := by
    cases s with
    | nil => cases hd
    | cons c rest =>
      have hform := isForm_formOf [] c rest
      obtain ⟨e, more, heq⟩ := List.exists_cons_of_ne_nil hform.nonempty
      rw [Unicode.lower, lowerAfter_cons, heq] at hd
      obtain rfl : e = d := Option.some.inj hd
      exact hform.notBlank (h.first c rfl) e (heq ▸ List.mem_cons_self)
  last := last_lowerAfter [] h.last

/-- A trimmed text in lower case stays as it is when it is trimmed and lower-cased. -/
theorem trim_lower_trim (s : List Char) : trim (lower (trim s)) = lower (trim s) :=
  (trimmed_trim s).lower.trim_eq

/-! ### Blanks around a text -/

theorem trimLeft_eq_nil_iff {s : List Char} : trimLeft s = [] ↔ ∀ c ∈ s, isBlank c = true :=
  List.dropWhile_eq_nil_iff

theorem trim_eq_nil_iff {s : List Char} : trim s = [] ↔ ∀ c ∈ s, isBlank c = true := by
  rw [trim, List.reverse_eq_nil_iff, trimLeft_eq_nil_iff, ← trimLeft_eq_nil_iff (s := s)]
  constructor
  · intro hall
    by_cases hnil : trimLeft s = []
    · exact hnil
    · obtain ⟨c, rest, heq⟩ := List.exists_cons_of_ne_nil hnil
      have hhead : isBlank c = false := head?_trimLeft (s := s) (by rw [heq]; rfl)
      rw [hall c (by simp [heq])] at hhead
      cases hhead
  · intro hnil
    simp [hnil]

theorem trimLeft_append {blanks : List Char} (h : ∀ c ∈ blanks, isBlank c = true)
    (s : List Char) : trimLeft (blanks ++ s) = trimLeft s :=
  List.dropWhile_append_of_pos h

theorem trim_pad {front back : List Char} (hfront : ∀ c ∈ front, isBlank c = true)
    (hback : ∀ c ∈ back, isBlank c = true) (s : List Char) :
    trim (front ++ (s ++ back)) = trim s := by
  have hreverse : ∀ c ∈ back.reverse, isBlank c = true := fun c hc =>
    hback c (List.mem_reverse.mp hc)
  have hright : trimLeft (trimLeft (s ++ back)).reverse = trimLeft (trimLeft s).reverse := by
    by_cases hnil : trimLeft s = []
    · have hall : ∀ c ∈ s ++ back, isBlank c = true := fun c hc =>
        (List.mem_append.mp hc).elim (trimLeft_eq_nil_iff.mp hnil c) (hback c)
      rw [hnil, trimLeft_eq_nil_iff.mpr hall]
    · have hsplit : trimLeft (s ++ back) = trimLeft s ++ back := by
        rw [trimLeft, List.dropWhile_append, if_neg (by simpa [trimLeft] using hnil), trimLeft]
      rw [hsplit, List.reverse_append, trimLeft_append hreverse]
  rw [trim, trim, trimLeft_append hfront, hright]

/-! ### ASCII letters -/

theorem toLower_cases (c : Char) :
    c.toLower = c ∨ ∃ n < 26, c = Char.ofNat (65 + n) ∧ c.toLower = Char.ofNat (97 + n) := by
  by_cases hupper : 65 ≤ c.toNat ∧ c.toNat ≤ 90
  · right
    have hc : c = Char.ofNat c.toNat := (Char.ofNat_toNat c).symm
    have hletters : ∀ n < 26, (Char.ofNat (65 + n)).toLower = Char.ofNat (97 + n) := by decide
    refine ⟨c.toNat - 65, by omega, ?_, ?_⟩
    · rw [Nat.add_sub_cancel' hupper.1]
      exact hc
    · have hletter := hletters (c.toNat - 65) (by omega)
      rwa [Nat.add_sub_cancel' hupper.1, ← hc] at hletter
  · left
    unfold Char.toLower
    rw [dif_neg]
    simpa [UInt32.le_iff_toNat_le] using hupper

/-- Whatever holds of the two cases of each letter holds of a character and its lower case. -/
theorem toLower_congr {α : Type} (f : Char → α)
    (h : ∀ n < 26, f (Char.ofNat (97 + n)) = f (Char.ofNat (65 + n))) (c : Char) :
    f c.toLower = f c := by
  rcases toLower_cases c with heq | ⟨n, hn, hc, hlower⟩
  · rw [heq]
  · rw [hlower, hc, h n hn]

theorem isBlank_toLower (c : Char) : isBlank c.toLower = isBlank c :=
  toLower_congr isBlank (by decide) c

theorem isCased_toLower (c : Char) : isCased c.toLower = isCased c :=
  toLower_congr isCased (by decide +kernel) c

theorem caseIgnorable_apart : ∀ r ∈ caseIgnorableRanges,
    r.2 < 65 ∨ 90 < r.1 ∧ r.2 < 97 ∨ 122 < r.1 := by
  have hall : (caseIgnorableRanges.all fun r =>
      r.2.blt 65 || (Nat.blt 90 r.1 && r.2.blt 97 || Nat.blt 122 r.1)) = true := by decide +kernel
  simpa only [List.all_eq_true, Bool.or_eq_true, Bool.and_eq_true, Nat.blt_eq] using hall

theorem not_caseIgnorable {c : Char}
    (h : 65 ≤ c.toNat ∧ c.toNat ≤ 90 ∨ 97 ≤ c.toNat ∧ c.toNat ≤ 122) :
    isCaseIgnorable c = false := by
  rw [isCaseIgnorable, inRanges, List.any_eq_false]
  intro r hr
  have hapart := caseIgnorable_apart r hr
  simp only [Bool.and_eq_true, decide_eq_true_eq]
  omega

theorem isCaseIgnorable_toLower (c : Char) : isCaseIgnorable c.toLower = isCaseIgnorable c := by
  refine toLower_congr isCaseIgnorable (fun n hn => ?_) c
  have hletters : ∀ n < 26, (Char.ofNat (65 + n)).toNat = 65 + n ∧
      (Char.ofNat (97 + n)).toNat = 97 + n := by decide
  obtain ⟨hupper, hlower⟩ := hletters n hn
  rw [not_caseIgnorable (by omega), not_caseIgnorable (by omega)]

/-- A small letter is the form of its capital, so it has no other form. -/
theorem lowerChar_toLower (c : Char) : lowerChar c.toLower = lowerChar c := by
  refine toLower_congr lowerChar (fun n hn => ?_) c
  have hcapital : ∀ n < 26, lowerChar (Char.ofNat (65 + n)) = [Char.ofNat (97 + n)] := by
    decide +kernel
  have hform := isForm_lowerChar (Char.ofNat (65 + n))
  rw [hcapital n hn] at hform ⊢
  exact lowerChar_of_settled (hform.settled _ (List.mem_singleton.mpr rfl))

theorem isSigma_toLower (c : Char) : (c.toLower.toNat = 0x3A3) = (c.toNat = 0x3A3) :=
  toLower_congr (fun c => c.toNat = 0x3A3) (by decide) c

theorem meetsCased_map (s : List Char) : meetsCased (s.map Char.toLower) = meetsCased s := by
  induction s with
  | nil => rfl
  | cons c rest ih =>
    unfold meetsCased at ih ⊢
    rw [List.map_cons, List.dropWhile_cons, List.dropWhile_cons, isCaseIgnorable_toLower]
    split
    · exact ih
    · simp [isCased_toLower]

theorem lowerAfter_map (before s : List Char) :
    lowerAfter (before.map Char.toLower) (s.map Char.toLower) = lowerAfter before s := by
  induction s generalizing before with
  | nil => rfl
  | cons c rest ih =>
    have hrest := ih (c :: before)
    rw [List.map_cons] at hrest
    rw [List.map_cons, lowerAfter_cons, lowerAfter_cons, hrest]
    simp only [formOf, meetsCased_map, lowerChar_toLower, isSigma_toLower]

theorem lower_map (s : List Char) : lower (s.map Char.toLower) = lower s := lowerAfter_map [] s

theorem trimLeft_map (s : List Char) :
    trimLeft (s.map Char.toLower) = (trimLeft s).map Char.toLower := by
  have hblank : isBlank ∘ Char.toLower = isBlank := funext isBlank_toLower
  rw [trimLeft, List.dropWhile_map, hblank, trimLeft]

theorem trim_map (s : List Char) : trim (s.map Char.toLower) = (trim s).map Char.toLower := by
  rw [trim, trimLeft_map, ← List.map_reverse, trimLeft_map, ← List.map_reverse, trim]

end Delivery.Unicode
