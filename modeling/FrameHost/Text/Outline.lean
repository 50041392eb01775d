/-!
The text of a structured value, on one line or with one field a line. The indented form ends every field
with a comma and indents by four spaces a level.
-/
namespace FrameHost

/-- A value as it is shown: an atom by its text, a compound by its name and parts. An `openEnded` record
has parts that are not shown. -/
inductive Outline where
  | atom (text : String)
  | record (name : String) (fields : List (String × Outline)) (openEnded : Bool)
  | tuple (name : String) (items : List Outline)
  | list (items : List Outline)

namespace Outline

mutual

def compact : Outline → String
  | atom text => text
  | record name fields openEnded =>
      let parts := compactFields fields ++ (if openEnded then [".."] else [])
      name ++ " \x7b " ++ ", ".intercalate parts ++ " \x7d"
  | tuple name items => name ++ "(" ++ ", ".intercalate (compactItems items) ++ ")"
  | list items => "[" ++ ", ".intercalate (compactItems items) ++ "]"

def compactFields : List (String × Outline) → List String
  | [] => []
  | (name, value) :: rest => (name ++ ": " ++ compact value) :: compactFields rest

def compactItems : List Outline → List String
  | [] => []
  | value :: rest => compact value :: compactItems rest

end

def indent (depth : Nat) : String := String.ofList (List.replicate (4 * depth) ' ')

def block (depth : Nat) (opening closing : String) (parts : List String) : String :=
  opening ++ "\n" ++ String.join (parts.map fun p => indent (depth + 1) ++ p ++ "\n") ++ indent depth ++ closing

mutual

def indentedAt (depth : Nat) : Outline → String
  | atom text => text
  | record name [] true => name ++ " \x7b .. \x7d"
  | record name fields openEnded =>
      block depth (name ++ " \x7b") "\x7d" (indentedFields depth fields ++ (if openEnded then [".."] else []))
  | tuple name items => block depth (name ++ "(") ")" (indentedItems depth items)
  | list [] => "[]"
  | list items => block depth "[" "]" (indentedItems depth items)

def indentedFields (depth : Nat) : List (String × Outline) → List String
  | [] => []
  | (name, value) :: rest => (name ++ ": " ++ indentedAt (depth + 1) value ++ ",") :: indentedFields depth rest

def indentedItems (depth : Nat) : List Outline → List String
  | [] => []
  | value :: rest => (indentedAt (depth + 1) value ++ ",") :: indentedItems depth rest

end

def indented (o : Outline) : String := indentedAt 0 o

def bool (b : Bool) : Outline := atom (toString b)
def nat (n : Nat) : Outline := atom (toString n)

def optional : Option Outline → Outline
  | none => atom "None"
  | some o => tuple "Some" [o]

end Outline

end FrameHost
