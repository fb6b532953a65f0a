import Delivery.Document.Reader

/-!
# Names and texts of a document

An identifier starts with a letter or an underscore; one with points or signs in it has to be
written raw, after `r#`. A text stands between double quotes with escapes, or raw between quotes and
hashes. A backslash at the end of a line joins the line to the next one without its indentation.
-/

namespace Delivery.Document

/-! ### Identifiers -/

def quoteMarks : List (List Char) :=
  [['b', '"'], ['b', '\''], ['b', 'r', '#'], ['b', 'r', '"'], ['r', '"'], ['r', '#', '"'],
   ['r', '#', '#']]

def startsName (c : Char) : Bool := c == '_' || Unicode.isIdentifierStart c

def isRawPart (c : Char) : Bool :=
  c == '.' || c == '+' || c == '-' || Unicode.isIdentifierPart c

def meetsQuote (s : List Char) : Bool := quoteMarks.any (·.isPrefixOf s)

def looseName : Reader (List Char) := do
  let s ← ahead
  if meetsQuote s then failure
  match after? ['r', '#'] s with
  | some raw =>
    goTo raw
    let name ← takeRun isRawPart
    if name.isEmpty then failure
    return name
  | none =>
    match s with
    | c :: _ => if startsName c then takeRun Unicode.isIdentifierPart else failure
    | [] => failure

/-- Reads an identifier; a plain one must not be followed by what only a raw one may hold. -/
def name : Reader (List Char) := do
  let isRaw := (after? ['r', '#'] (← ahead)).isSome
  let name ← looseName
  if !isRaw && ((← ahead).head?.map isRawPart).getD false then failure
  return name

/-! ### Escapes -/

def hexValue? (c : Char) : Option Nat :=
  if c.isDigit then some (c.toNat - 48)
  else if 'a' ≤ c ∧ c ≤ 'f' then some (c.toNat - 87)
  else if 'A' ≤ c ∧ c ≤ 'F' then some (c.toNat - 55)
  else none

def hexDigit : Reader Nat := do hexValue? (← takeChar)

def hexByte : Reader Nat := return 16 * (← hexDigit) + (← hexDigit)

def decodeChar (bytes : List Nat) : Option Char :=
  match (String.fromUTF8? (ByteArray.mk (bytes.map Nat.toUInt8).toArray)).map String.toList with
  | some [c] => some c
  | _ => none

def moreBytes : (left : Nat) → (bytes : List Nat) → Reader Char
  | left, bytes => do
    match decodeChar bytes, left with
    | some c, _ => return c
    | none, 0 => failure
    | none, left + 1 =>
      if ← takeWord ['\\', 'x'] then moreBytes left (bytes ++ [← hexByte]) else failure

def codePoint : (left : Nat) → (value : Nat) → Reader Nat
  | 0, value => return value
  | left + 1, value => do
    if (← ahead).head? = some '\x7d' then return value
    codePoint left (16 * value + (← hexDigit))

def bracedPoint : Reader Char := do
  expect '\x7b'
  if (← ahead).head? = some '\x7d' then failure
  let n ← codePoint 6 0
  expect '\x7d'
  if n.isValidChar then return Char.ofNat n else failure

def simpleEscapes : List (Char × Char) :=
  [('\'', '\''), ('"', '"'), ('\\', '\\'), ('n', '\n'), ('r', '\r'), ('t', '\t'), ('0', '\x00')]

def escaped : Reader Char := do
  let c ← takeChar
  if c = 'x' then moreBytes 3 [← hexByte]
  else if c = 'u' then bracedPoint
  else simpleEscapes.lookup c

def escapedByte : Reader Char := do
  let c ← takeChar
  if c = 'x' then return Char.ofNat (← hexByte) else simpleEscapes.lookup c

def escapedInBytes : Reader Char := do
  if ← takeWord ['u'] then bracedPoint else escapedByte

/-- Whether a character may stand between a line that goes on and the text on the next one. -/
def isIndentation (c : Char) : Bool := [' ', '\t', '\n', '\r'].contains c

/-- Takes the end of a line that goes on and all indentation after it, and says whether it came. -/
def takeLineEnd : Reader Bool := do
  if ← takeWord ['\n'] <||> takeWord ['\r', '\n'] then
    discard (takeRun isIndentation)
    return true
  else return false

/-! ### Texts -/

def quotedRest (escape : Reader Char) : (fuel : Nat) → (read : List Char) → Reader (List Char)
  | 0, _ => failure
  | fuel + 1, read => do
    let c ← takeChar
    if c = '"' then return read.reverse
    else if c = '\\' then
      if ← takeLineEnd then quotedRest escape fuel read
      else quotedRest escape fuel ((← escape) :: read)
    else quotedRest escape fuel (c :: read)

def quotedText (escape : Reader Char) : Reader (List Char) := do
  quotedRest escape ((← ahead).length + 1) []

def splitAt? (word : List Char) : List Char → Option (List Char × List Char)
  | [] => if word.isEmpty then some ([], []) else none
  | c :: rest =>
    match after? word (c :: rest) with
    | some tail => some ([], tail)
    | none => (splitAt? word rest).map fun p => (c :: p.1, p.2)

def rawText : Reader (List Char) := do
  let hashes ← takeRun (· == '#')
  expect '"'
  let (text, rest) ← splitAt? ('"' :: hashes) (← ahead)
  goTo rest
  return text

def text : Reader String := do
  if ← takeWord ['"'] then return String.ofList (← quotedText escaped)
  expect 'r'
  return String.ofList (← rawText)

def byteText : Reader Unit := do
  if ← takeWord ['b', '"'] then discard (quotedText escapedInBytes)
  else if ← takeWord ['b', 'r'] then discard rawText
  else failure

def character : Reader Char := do
  expect '\''
  let c ← takeChar
  let c ← if c = '\\' then escapedChar else pure c
  expect '\''
  return c
where
  escapedChar : Reader Char := do
    let c ← takeChar
    if c = 'x' then
      let n ← hexByte
      if n < 128 then return Char.ofNat n else failure
    else if c = 'u' then bracedPoint
    else simpleEscapes.lookup c

end Delivery.Document
