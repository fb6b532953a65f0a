import Delivery.Unicode.Identifier

/-!
# Reading a document

A document is read from left to right by readers that know the type they want. A reader that meets
something else gives up; nothing is known about why. Between the pieces of a document there may be
white space and comments, to the end of a line or nested between `/*` and `*/`.

A reader also carries the extensions that the document switched on, how many levels it may still
go down, and whether the value that comes next shares the parentheses of the variant around it.
-/

namespace Delivery.Document

inductive Extension where
  | unwrapNewtypes
  | implicitSome
  | unwrapVariantNewtypes
  | explicitStructNames
  deriving DecidableEq, Repr

structure Cursor where
  rest : List Char
  extensions : List Extension := []
  depth : Nat := 128
  shared : Bool := false

abbrev Reader := StateT Cursor Option

/-! ### White space and comments -/

def isSpace (c : Char) : Bool :=
  [0x20, 0x9, 0xA, 0xB, 0xC, 0xD, 0x85, 0x200E, 0x200F, 0x2028, 0x2029].contains c.toNat

inductive Gap where
  | between
  | line
  | block (outer : Nat)
  deriving DecidableEq, Repr

/-- Drops white space and comments; a comment that is not closed, or a slash that begins none, is no
document. -/
def dropGap : Gap → List Char → Option (List Char)
  | .between, '/' :: '/' :: rest => dropGap .line rest
  | .between, '/' :: '*' :: rest => dropGap (.block 0) rest
  | .between, '/' :: _ => none
  | .between, c :: rest => if isSpace c then dropGap .between rest else some (c :: rest)
  | .between, [] => some []
  | .line, '\n' :: rest => dropGap .between rest
  | .line, _ :: rest => dropGap .line rest
  | .line, [] => some []
  | .block n, '/' :: '*' :: rest => dropGap (.block (n + 1)) rest
  | .block 0, '*' :: '/' :: rest => dropGap .between rest
  | .block (n + 1), '*' :: '/' :: rest => dropGap (.block n) rest
  | .block n, _ :: rest => dropGap (.block n) rest
  | .block _, [] => none

def skipGap : Reader Unit := fun c => do
  return ((), { c with rest := ← dropGap .between c.rest })

/-! ### Pieces -/

def ahead : Reader (List Char) := return (← get).rest

def goTo (rest : List Char) : Reader Unit := modify fun c => { c with rest }

def after? (word : List Char) (s : List Char) : Option (List Char) :=
  if word.isPrefixOf s then some (s.drop word.length) else none

def takeWord (word : List Char) : Reader Bool := do
  match after? word (← ahead) with
  | some rest => goTo rest; return true
  | none => return false

def endsIdentifier (s : List Char) : Bool :=
  !((s.head?.map Unicode.isIdentifierPart).getD false)

def takeName (word : List Char) : Reader Bool := do
  match after? word (← ahead) with
  | some rest => if endsIdentifier rest then goTo rest; return true else return false
  | none => return false

def expect (c : Char) : Reader Unit := do
  if ← takeWord [c] then return () else failure

def takeChar : Reader Char := do
  match ← ahead with
  | c :: rest => goTo rest; return c
  | [] => failure

def takeRun (test : Char → Bool) : Reader (List Char) := do
  let s ← ahead
  goTo (s.dropWhile test)
  return s.takeWhile test

def takeComma : Reader Bool := do
  skipGap
  if ← takeWord [','] then
    skipGap
    return true
  else return false

def has (e : Extension) : Reader Bool := return (← get).extensions.contains e

def nested {α : Type} (r : Reader α) : Reader α := do
  match (← get).depth with
  | 0 => failure
  | depth + 1 =>
    modify fun c => { c with depth }
    let a ← r
    modify fun c => { c with depth := depth + 1 }
    return a

/-- Reads with one of two readers: the second begins where the first did. -/
def either {α : Type} (first second : Reader α) : Reader α := fun c => first c <|> second c

def peek {α : Type} (r : Reader α) : Reader α := fun c => do
  let (a, _) ← r c
  return (a, c)

def attempt {α : Type} (r : Reader α) : Reader Unit := either (discard r) (pure ())

def isShared : Reader Bool := return (← get).shared

def setShared (shared : Bool) : Reader Unit := modify fun c => { c with shared }

/-- Reads what stands between the parentheses of a value, or of the variant around it. -/
def inParentheses {α : Type} (r : Reader α) : Reader α := do
  if ← isShared then
    setShared false
    r
  else
    expect '('
    let a ← r
    expect ')'
    return a

/-- Reads the content of a variant, after its opening parenthesis, and the closing one. A comma may
follow the content. -/
def content {α : Type} (value : Reader α) : Reader α := do
  skipGap
  setShared (← has .unwrapVariantNewtypes)
  let a ← nested value
  setShared false
  discard takeComma
  expect ')'
  return a

/-- Reads items separated by commas up to a closing character, which is left. A comma may follow the
last item. -/
def items {σ : Type} (close : Char) (item : σ → Reader σ) :
    (fuel : Nat) → (comma : Bool) → σ → Reader σ
  | 0, _, _ => failure
  | fuel + 1, comma, s => do
    skipGap
    if (← ahead).head? = some close then return s
    if !comma then failure
    let s ← item s
    let comma ← takeComma
    items close item fuel comma s

/-- Reads all items up to a closing character; each takes at least one character. -/
def allItems {σ : Type} (close : Char) (item : σ → Reader σ) (s : σ) : Reader σ := do
  items close item ((← ahead).length + 1) true s

end Delivery.Document
