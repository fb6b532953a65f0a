import Delivery.DeadLetter.Error

/-!
# Names of tables

A table is named by a schema and a name in it. Both are plain identifiers, so a statement can quote
them as they are.
-/

namespace Delivery

/-- A part of a statement's text: words of the language, or a name to be quoted. -/
inductive Fragment where
  | words (text : String)
  | name (text : String)
  deriving DecidableEq, Repr

namespace Fragment

/-- The text of a fragment; a name stands between double quotes. -/
def text : Fragment → String
  | words s => s
  | name s => "\"" ++ s ++ "\""

def join (fragments : List Fragment) : String :=
  String.join (fragments.map text)

end Fragment

def startsIdentifier (c : Char) : Bool := c.isAlpha || c == '_'

def continuesIdentifier (c : Char) : Bool := c.isAlphanum || c == '_'

def identifierLimit : Nat := 63

def isIdentifier (s : String) : Bool :=
  match s.toList with
  | [] => false
  | c :: rest =>
    startsIdentifier c && rest.all continuesIdentifier && s.utf8ByteSize ≤ identifierLimit

structure TableName where
  schema : String
  table : String
  deriving DecidableEq, Repr

namespace TableName

def refusal (part name : String) : DeadLetterError :=
  .configuration (part ++ " name '" ++ name ++ "' must start with a letter or underscore, " ++
    "contain only ASCII letters, digits and underscores, and be at most " ++
    toString identifierLimit ++ " characters")

def create (schema table : String) : Except DeadLetterError TableName :=
  if !isIdentifier schema then .error (refusal "schema" schema)
  else if !isIdentifier table then .error (refusal "table" table)
  else .ok ⟨schema, table⟩

def fragments (t : TableName) : List Fragment := [.name t.schema, .words ".", .name t.table]

def text (t : TableName) : String := Fragment.join t.fragments

end TableName

end Delivery
