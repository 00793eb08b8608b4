import DependencyAudit.Json
import DependencyAudit.Json.Lexer

/-!
The text of a JSON value: every item and every member on a line of its own, indented by two blanks
for each array or object around it.
-/
namespace DependencyAudit.Json

def lowerHex (n : Nat) : Char := Nat.digitChar (n % 16)

/-- How a character stands in a string. -/
def escape (c : Char) : List Char :=
  if c = '"' then ['\\', '"']
  else if c = '\\' then ['\\', '\\']
  else if c = '\x08' then ['\\', 'b']
  else if c = '\x0c' then ['\\', 'f']
  else if c = '\n' then ['\\', 'n']
  else if c = '\r' then ['\\', 'r']
  else if c = '\t' then ['\\', 't']
  else if c.toNat < 0x20 then ['\\', 'u', '0', '0', lowerHex (c.toNat / 16), lowerHex c.toNat]
  else [c]

/-- A string between quotation marks. One with half of a surrogate pair has such a half. -/
def stringText : Option String → List Char
  | some s => '"' :: s.toList.flatMap escape ++ ['"']
  | none => ['"', '\\', 'u', 'd', '8', '0', '0', '"']

/-- A line break and the indentation of the given depth. -/
def newLine (depth : Nat) : List Char := '\n' :: List.replicate (2 * depth) ' '

mutual

/-- The characters of a value at the given depth. -/
def render (depth : Nat) : Json → List Char
  | null => "null".toList
  | bool true => "true".toList
  | bool false => "false".toList
  | number spelling => spelling.toList
  | string content => stringText content
  | array [] => ['[', ']']
  | array (item :: items) =>
    '[' :: newLine (depth + 1) ++ render (depth + 1) item ++ renderItems (depth + 1) items ++
      newLine depth ++ [']']
  | object [] => ['{', '}']
  | object ((name, value) :: members) =>
    '{' :: newLine (depth + 1) ++ stringText name ++ [':', ' '] ++ render (depth + 1) value ++
      renderMembers (depth + 1) members ++ newLine depth ++ ['}']

/-- The items after the first. -/
def renderItems (depth : Nat) : List Json → List Char
  | [] => []
  | item :: items => ',' :: newLine depth ++ render depth item ++ renderItems depth items

/-- The members after the first. -/
def renderMembers (depth : Nat) : List (Option String × Json) → List Char
  | [] => []
  | (name, value) :: members =>
    ',' :: newLine depth ++ stringText name ++ [':', ' '] ++ render depth value ++
      renderMembers depth members

end

/-- The text of a value. -/
def print (value : Json) : String := String.ofList (render 0 value)

end DependencyAudit.Json
