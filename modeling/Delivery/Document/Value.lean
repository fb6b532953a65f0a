import Delivery.Document.Number

/-!
# Values of a document

Records are written as named fields between parentheses, with or without the record's name in front;
optional values as `None` or `Some(…)`; lists in brackets, maps in braces, variants by their names.
Values of fields that a record does not know are skipped, whatever they are. A value that shares the
parentheses of the variant around it is skipped by its shape, for which one has to look ahead.
-/

namespace Delivery.Document

/-! ### Skipping -/

def skipItem (value : Reader Unit) : Unit → Reader Unit := fun _ => nested value

def skipPair (key value : Reader Unit) : Unit → Reader Unit := fun _ => do
  nested key
  skipGap
  expect ':'
  skipGap
  nested value

def meetsFields : Reader Bool := fun c => do
  let ahead : Reader Bool := do
    if ← takeWord ['('] then
      skipGap
      discard looseName
      skipGap
      return (← ahead).head? = some ':'
    else return false
  return (((ahead c).map (·.1)).getD false, c)

def skipBetween (opening closing : Char) (item : Unit → Reader Unit) : Reader Unit := do
  expect opening
  nested (allItems closing item ())
  expect closing

def skipNamed (value : Reader Unit) : Reader Unit :=
  inParentheses (nested (allItems ')' (skipPair (discard name) value) ()))

def skipItems (value : Reader Unit) : Reader Unit :=
  inParentheses (nested (allItems ')' (skipItem value) ()))

def skipFields (value : Reader Unit) : Reader Unit := do
  if ← meetsFields then skipNamed value
  else if (← ahead).head? = some '(' then skipItems value
  else return ()

/-- Reads an optional value after the word `Some`: in parentheses, or as it is where `Some` need not
be written at all. -/
def present {α : Type} (value : Reader α) : Reader α := do
  skipGap
  if ← takeWord ['('] then content value
  else if ← has .implicitSome then nested value
  else failure

/-! ### Shared parentheses -/

inductive Shape where
  | nothing
  | named
  | items
  | single
  deriving DecidableEq, Repr

/-- The shape of a content that has a comma after its first value, which has been taken. -/
def shapeAfterComma : Reader Shape := do
  skipGap
  return if (← ahead).head? = some ')' then .single else .items

/-- Looks for a comma after the first value, past texts and characters and whatever stands between
so many open brackets. -/
def shapeWithin : (fuel : Nat) → (brackets : Nat) → Reader Shape
  | 0, _ => failure
  | fuel + 1, brackets => do
    skipGap
    attempt character
    attempt text
    attempt byteText
    let c ← takeChar
    if ['(', '[', '\x7b'].contains c then shapeWithin fuel (brackets + 1)
    else if [')', ']', '\x7d'].contains c then
      if brackets = 0 then return .single else shapeWithin fuel (brackets - 1)
    else if c = ',' && brackets = 0 then shapeAfterComma
    else shapeWithin fuel brackets

def shape : Reader Shape := do
  if (← ahead).head? = some ')' then return .nothing
  skipGap
  let within : Reader Shape := do shapeWithin ((← ahead).length + 1) 0
  match ← either (some <$> looseName) (pure none) with
  | none => within
  | some _ =>
    skipGap
    match (← ahead).head? with
    | some ':' => return .named
    | some ',' =>
      discard takeChar
      shapeAfterComma
    | some ')' => return .single
    | _ => within

/-- Skips a value that shares parentheses, unless it is a single one. Says whether it did. -/
def skipShared (value : Reader Unit) : Reader Bool := do
  match ← peek shape with
  | .nothing => setShared false; return true
  | .named => skipNamed value; return true
  | .items => skipItems value; return true
  | .single => setShared false; return false

/-! ### Skipping any value -/

def skipPlain (value : Reader Unit) : Reader Unit := do
  match (← ahead).head? with
  | some '(' => skipFields value
  | some '[' => skipBetween '[' ']' (skipItem value)
  | some '\x7b' => skipBetween '\x7b' '\x7d' (skipPair value value)
  | some '"' | some 'r' => discard text
  | some 'b' => if (after? ['b', '\''] (← ahead)).isSome then numberOrRange else byteText
  | some '\'' => discard character
  | some c =>
    if c.isDigit || c == '+' || c == '-' || c == '.' then numberOrRange else failure
  | none => failure

def wordValues : List String := ["true", "false", "None"]

def wordNumbers : List String := ["inf", "inff32", "inff64", "NaN", "NaNf32", "NaNf64"]

def takeAnyName : List String → Reader Bool
  | [] => return false
  | w :: rest => do if ← takeName w.toList then return true else takeAnyName rest

def skipValue : (levels : Nat) → Reader Unit
  | 0 => failure
  | levels + 1 => do
    let value := skipValue levels
    if ← isShared then if ← skipShared value then return ()
    if ← takeAnyName wordValues then return ()
    if ← takeWord ['(', ')'] then return ()
    if ← takeAnyName wordNumbers then rangeRest
    else if ← takeName "Some".toList then present value
    else
      let found ← either (some <$> looseName) (pure none)
      match found with
      | some _ =>
        skipGap
        skipFields value
      | none => skipPlain value

/-- Skips a value. A value cannot be nested deeper than the reader goes. -/
def skipAny : Reader Unit := do skipValue ((← get).depth + 2)

/-! ### Simple values -/

def flag : Reader Bool := do
  if ← takeName "true".toList then return true
  else if ← takeName "false".toList then return false
  else failure

def double : Reader Double := float ["f64"]

def optional {α : Type} (value : Reader α) : Reader (Option α) := do
  if ← takeName "None".toList then return none
  if ← takeName "Some".toList then return some (← present value)
  if ← has .implicitSome then return some (← nested value)
  failure

def list {α : Type} (value : Reader α) : Reader (List α) := do
  setShared false
  expect '['
  let read ← nested (allItems ']' (fun read => do return (← nested value) :: read) [])
  expect ']'
  return read.reverse

def map {α β : Type} (key : Reader α) (value : Reader β) : Reader (List (α × β)) := do
  setShared false
  expect '\x7b'
  let read ← nested (allItems '\x7d' (fun read => do
    let k ← nested key
    skipGap
    expect ':'
    skipGap
    return (k, ← nested value) :: read) [])
  expect '\x7d'
  return read.reverse

/-! ### Variants -/

/-- Reads one of several variants by its name; what follows the name is up to the variant. -/
def choice {α : Type} (variants : List (String × Reader α)) : Reader α := nested do
  setShared false
  let found ← nested name
  match variants.lookup (String.ofList found) with
  | some rest => rest
  | none => failure

def variant {α : Type} (names : List (String × α)) : Reader α :=
  choice (names.map fun x => (x.1, pure x.2))

/-! ### Records -/

/-- A field of a record: what its value does to the record. -/
structure Field (δ : Type) where
  name : String
  read : Reader (δ → δ)
  required : Bool := false

namespace Field

variable {δ α : Type}

def optionally (name : String) (value : Reader α) (set : α → δ → δ) : Field δ where
  name := name
  read := set <$> value

def always (name : String) (value : Reader α) (set : α → δ → δ) : Field δ where
  name := name
  read := set <$> value
  required := true

end Field

/-- Takes the name of a record, which may be left out unless the document says otherwise. -/
def recordName (record : String) : Reader Unit := do
  if endsIdentifier (← ahead) then
    if ← has .explicitStructNames then failure
  else
    let found ← name
    if found ≠ record.toList then failure

/-- Reads a field of a record. A known one must not be written twice; others are skipped. -/
def field {δ : Type} (fields : List (Field δ)) : List String × δ → Reader (List String × δ) :=
  fun (seen, draft) => do
    let found := String.ofList (← nested name)
    skipGap
    expect ':'
    skipGap
    match fields.find? (·.name == found) with
    | some f =>
      if seen.contains found then failure
      let change ← nested f.read
      return (found :: seen, change draft)
    | none =>
      nested skipAny
      return (seen, draft)

def fields {δ : Type} (fields : List (Field δ)) (draft : δ) : Reader δ := do
  let (seen, draft) ← nested (allItems ')' (field fields) ([], draft))
  if fields.all fun f => !f.required || seen.contains f.name then return draft else failure

/-- Reads a record, given its name, its fields, and what it is before any of them is read. Without
parentheses of its own a record has no name either. -/
def record {δ : Type} (name : String) (known : List (Field δ)) (draft : δ) : Reader δ := do
  if !(← isShared) then recordName name
  skipGap
  inParentheses (fields known draft)

def held {α : Type} (value : Reader α) : Reader α := do
  skipGap
  expect '('
  content value

/-! ### Documents -/

def extensionNames : List (String × Extension) :=
  [("unwrap_newtypes", .unwrapNewtypes), ("implicit_some", .implicitSome),
   ("unwrap_variant_newtypes", .unwrapVariantNewtypes),
   ("explicit_struct_names", .explicitStructNames)]

def expectAll (words : List String) : Reader Unit :=
  words.forM fun w => do
    if ← takeWord w.toList then skipGap else failure

def extensionList : (fuel : Nat) → Reader Unit
  | 0 => failure
  | fuel + 1 => do
    let found ← name
    let e ← extensionNames.lookup (String.ofList found)
    modify fun c => { c with extensions := e :: c.extensions }
    let comma ← takeComma
    if (← ahead).head? = some ')' then return ()
    else if comma then extensionList fuel
    else failure

/-- Reads what a line at the start says: the extensions that the document switches on, or a text
that tells other tools about its type or its schema. -/
def directive : Reader Unit := do
  if ← takeWord "enable".toList then
    skipGap
    expectAll ["("]
    extensionList ((← ahead).length + 1)
    expectAll [")"]
  else if ← takeWord "type".toList <||> takeWord "schema".toList then
    skipGap
    expectAll ["="]
    discard text
    skipGap
  else failure

def header : (fuel : Nat) → Reader Unit
  | 0 => failure
  | fuel + 1 => do
    skipGap
    if (← ahead).head? = some '#' then
      expectAll ["#", "!", "["]
      directive
      expectAll ["]"]
      header fuel
    else return ()

def read? {α : Type} (value : Reader α) (s : String) : Option α :=
  let whole : Reader α := do
    header ((← ahead).length + 1)
    let a ← value
    skipGap
    if (← ahead).isEmpty then return a else failure
  (whole { rest := s.toList }).map (·.1)

end Delivery.Document
