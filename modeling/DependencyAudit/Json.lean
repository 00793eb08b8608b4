/-!
JSON values. A string is `none` when an escape in it names half of a surrogate pair, which is no
character; a number keeps its spelling.
-/
namespace DependencyAudit

inductive Json
  | null
  | bool (value : Bool)
  | number (spelling : String)
  | string (content : Option String)
  | array (items : List Json)
  | object (members : List (Option String × Json))
deriving Inhabited

namespace Json

def text (s : String) : Json := .string (some s)

/-- An object whose members have the given names. -/
def record (members : List (String × Json)) : Json :=
  .object (members.map fun (name, value) => (some name, value))

/-- The first member of the name. -/
def member? (name : String) : Json → Option Json
  | .object members => members.lookup (some name)
  | _ => none

end Json

end DependencyAudit
