import DependencyAudit.Text.Lines
import DependencyAudit.Text.Search

/-!
Paths of files and directories. A path keeps the text it was written with; what it names is read off
its components, and two paths are the same, or one comes before the other, by their components.
-/
namespace DependencyAudit

structure Path where
  text : String
deriving DecidableEq, Inhabited

/-- A part of a path between slashes. -/
inductive Component
  | root
  | current
  | parent
  | name (text : String)
deriving DecidableEq

namespace Component

def text : Component → String
  | root => "/"
  | current => "."
  | parent => ".."
  | name text => text

/-- Root, current and parent directory come before all names, in this order. -/
def rank : Component → Nat
  | root => 0
  | current => 1
  | parent => 2
  | name _ => 3

/-- Names are ordered by code points. -/
def order : Component → Component → Ordering
  | name a, name b => compare a b
  | a, b => compare a.rank b.rank

end Component

namespace Path

def slash : Char := '/'

/-- What a piece between slashes stands for; an empty one and a single dot stand for nothing. -/
def component? (piece : List Char) : Option Component :=
  if piece = [] ∨ piece = ['.'] then none
  else if piece = ['.', '.'] then some .parent
  else some (.name (String.ofList piece))

def pieces (p : Path) : List (List Char) := Text.pieces slash p.text.toList

/-- A dot counts only as the first piece. Repeated slashes and one at the end mean nothing. -/
def components (p : Path) : List Component :=
  match p.pieces with
  | [] :: piece :: rest => .root :: (piece :: rest).filterMap component?
  | ['.'] :: rest => .current :: rest.filterMap component?
  | pieces => pieces.filterMap component?

/-- Two spellings of the same path. -/
def same (p q : Path) : Bool := decide (p.components = q.components)

/-- The order of paths: component by component, a path before its extensions. -/
def order (p q : Path) : Ordering := List.compareLex Component.order p.components q.components

def isAbsolute (p : Path) : Bool := p.text.toList.head? = some slash

/-- The path of `p` as seen from the directory `base`; an absolute path is seen the same from
everywhere. -/
def join (base p : Path) : Path :=
  if p.isAbsolute then p
  else if base.text = "" ∨ base.text.toList.getLast? = some slash then ⟨base.text ++ p.text⟩
  else ⟨base.text ++ "/" ++ p.text⟩

/-- The name that a path ends with, if it ends with a name. -/
def fileName? (p : Path) : Option String :=
  match p.components.getLast? with
  | some (.name text) => some text
  | _ => none

/-- What follows the last dot of the file name, if something stands before that dot. -/
def extension? (p : Path) : Option String := do
  let name ← p.fileName?
  match (Text.pieces '.' name.toList).reverse with
  | [] | [_] => none
  | [_, []] => none
  | last :: _ => some (String.ofList last)

/-- The name to show for a file: its own name or, if it has none, its path. -/
def displayName (p : Path) : String := p.fileName?.getD p.text

/-- The path with the given components. -/
def ofComponents (cs : List Component) : Path := cs.foldl (fun p c => p.join ⟨c.text⟩) ⟨""⟩

/-- Takes a further component into a path that holds no current directory and no parent directory
after a name. The components are kept last one first. -/
def descend (above : List Component) : Component → List Component
  | .current => above
  | .parent =>
    match above with
    | .root :: _ => above
    | .name _ :: rest => rest
    | _ => .parent :: above
  | c => c :: above

/-- The shortest path that names the same place without looking at the disk. -/
def clean (p : Path) : Path :=
  match p.components.foldl descend [] with
  | [] => ⟨"."⟩
  | above => ofComponents above.reverse

/-- Whether the text of the path holds the fragment. -/
def mentions (p : Path) (fragment : String) : Bool :=
  Text.holds fragment.toList p.text.toList

end Path

end DependencyAudit
