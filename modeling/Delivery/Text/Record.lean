import Delivery.Text.Quoted

/-!
# Diagnostic text of structured values

Values are shown on one line: a record by its name and fields, a variant with its content in
parentheses, a set or a map between braces.
-/

namespace Delivery.Text

def openBrace : String := "\x7b"

def closeBrace : String := "\x7d"

def fieldList (fields : List (String × String)) : String :=
  ", ".intercalate (fields.map fun f => f.1 ++ ": " ++ f.2)

def record (name : String) (fields : List (String × String)) : String :=
  name ++ " " ++ openBrace ++ " " ++ fieldList fields ++ " " ++ closeBrace

def openRecord (name : String) (fields : List (String × String)) : String :=
  name ++ " " ++ openBrace ++ " " ++ fieldList fields ++ ", .. " ++ closeBrace

def variant (name content : String) : String :=
  name ++ "(" ++ content ++ ")"

def optional : Option String → String
  | none => "None"
  | some content => variant "Some" content

def braced (items : List String) : String :=
  openBrace ++ ", ".intercalate items ++ closeBrace

def yesNo (b : Bool) : String := if b then "true" else "false"

end Delivery.Text
