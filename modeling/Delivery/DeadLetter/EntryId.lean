/-!
# Ids of dead letters

An id is a number of 128 bits: 48 bits of milliseconds and 80 bits that tell ids of one millisecond
apart. Its text has 26 digits of five bits each, most significant first, in an alphabet without the
letters I, L, O and U. The 130 bits that 26 digits carry are cut to 128 on reading.
-/

namespace Delivery

structure EntryId where
  value : Nat
  deriving DecidableEq, Repr, Inhabited

namespace EntryId

def limit : Nat := Nat.pow 2 128

/-- The id of a millisecond and the number within it, of which 48 and 80 bits are kept. -/
def ofParts (ms random : Nat) : EntryId :=
  ⟨ms % Nat.pow 2 48 * Nat.pow 2 80 + random % Nat.pow 2 80⟩

def milliseconds (id : EntryId) : Nat := id.value / Nat.pow 2 80

def next (id : EntryId) : EntryId := ⟨id.value + 1⟩

/-! ### Text -/

def alphabet : List Char :=
  ['0', '1', '2', '3', '4', '5', '6', '7', '8', '9', 'A', 'B', 'C', 'D', 'E', 'F', 'G', 'H', 'J',
   'K', 'M', 'N', 'P', 'Q', 'R', 'S', 'T', 'V', 'W', 'X', 'Y', 'Z']

def textLength : Nat := 26

def digit (n : Nat) : Char := alphabet.getD n '0'

def digitValue? (c : Char) : Option Nat := alphabet.idxOf? c.toUpper

def digits : (width n : Nat) → List Char
  | 0, _ => []
  | width + 1, n => digits width (n / 32) ++ [digit (n % 32)]

def digitsValue? (cs : List Char) : Option Nat :=
  cs.foldlM (fun n c => (digitValue? c).map (32 * n + ·)) 0

def text (id : EntryId) : String := String.ofList (digits textLength id.value)

inductive ReadError where
  | length
  | character
  deriving DecidableEq, Repr

def ReadError.message : ReadError → String
  | .length => "invalid length"
  | .character => "invalid character"

/-- Reads an id. The length is that of the text in bytes, and is looked at first. -/
def read (s : String) : Except ReadError EntryId :=
  if s.utf8ByteSize ≠ textLength then .error .length
  else match digitsValue? s.toList with
    | some n => .ok ⟨n % limit⟩
    | none => .error .character

@[simp] theorem length_digits (width n : Nat) : (digits width n).length = width := by
  induction width generalizing n with
  | zero => rfl
  | succ w ih => simp only [digits, List.length_append, ih, List.length_singleton]

end EntryId

end Delivery
