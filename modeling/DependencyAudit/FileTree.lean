import DependencyAudit.Path
import DependencyAudit.Scan.FileSystem
import DependencyAudit.Text.Lines
import DependencyAudit.Text.Search
import DependencyAudit.Text.Utf8

/-!
A tree of files, directories, links and programs, and where a path leads in it. A link is followed
as soon as it is met, and a parent directory is that of the place reached.
-/
namespace DependencyAudit

/-- The names from the root to a place. -/
abbrev Location := List String

/-- The path from the root to a place. -/
def Location.path (l : Location) : Path := ⟨"/" ++ String.intercalate "/" l⟩

/-- How a program was called. -/
structure Invocation where
  arguments : List String
  directory : Location

inductive ExitStatus
  | exited (code : Nat)
  | killed (signal : Nat)
deriving DecidableEq

structure Response where
  stdout : ByteArray
  stderr : ByteArray
  status : ExitStatus

/-- A locked file is one that nobody may open. -/
inductive Node
  | directory
  | file (content : ByteArray)
  | locked
  | link (target : Path)
  | program (image : ByteArray) (run : Invocation → Except SystemError Response)

def Node.isFile : Node → Bool
  | file _ | locked | program _ _ => true
  | directory | link _ => false

/-- What stands in place of a node after content was written over it. A program stays one, but one
that no longer runs. -/
def Node.rewritten (content : ByteArray) : Node → Node
  | program _ _ => program content fun _ => .error .notRunnable
  | directory | file _ | locked | link _ => file content

/-- What stands at every location but the root, which is a directory. -/
structure FileTree where
  nodes : List (Location × Node) := []

/-- A piece of a path: to stay, to go up, or to go to a name. A slash at the end is to stay, too. -/
inductive Move
  | stay
  | up
  | into (name : String)
  | endSlash
deriving DecidableEq

/-- What a path is followed for: what stands there, or a file that may be made there. -/
inductive Purpose
  | look
  | make
deriving DecidableEq

/-- Where a path leads: to something, or to a free name in a directory. -/
inductive Place
  | occupied (location : Location) (node : Node)
  | vacant (location : Location)

/-- How far a path leads without following a link. -/
inductive Walk
  | arrived (place : Place)
  | failed (cause : SystemError)
  | linked (directory : Location) (target : Path) (rest : List Move)

def Path.move? (piece : List Char) : Option Move :=
  if piece = [] then none
  else if piece = ['.'] then some .stay
  else if piece = ['.', '.'] then some .up
  else some (.into (String.ofList piece))

/-- The moves of a path. A slash at the end asks for a directory. -/
def Path.moves (p : Path) : List Move :=
  p.pieces.filterMap Path.move? ++
    if p.text.toList.getLast? = some Path.slash then [.endSlash] else []

/-- The character that no path may hold. -/
def Path.forbidden : Char := '\x00'

def Path.isValid (p : Path) : Bool := !p.text.toList.contains forbidden

/-- A name may have this many bytes. -/
def nameLimit : Nat := 255

/-- A path may have this many bytes, wherever it leads. -/
def pathLimit : Nat := 4095

/-- Why a path is not even looked up. -/
def Path.objection? (p : Path) : Option SystemError :=
  if !p.isValid then some .invalidPath
  else if p.text = "" then some .notFound
  else if pathLimit < p.text.utf8ByteSize then some .nameTooLong
  else none

namespace FileTree

def node? (t : FileTree) (l : Location) : Option Node :=
  if l = [] then some .directory else t.nodes.lookup l

/-- Goes from an occupied location until a link is met. No file is made under a name with a slash
behind it. -/
def walk (t : FileTree) (purpose : Purpose) (l : Location) : List Move → Walk
  | [] =>
    match t.node? l with
    | some node => .arrived (.occupied l node)
    | none => .failed .notFound
  | move :: rest =>
    match t.node? l with
    | some .directory =>
      match move with
      | .stay | .endSlash => t.walk purpose l rest
      | .up => t.walk purpose l.dropLast rest
      | .into name =>
        if purpose = .make ∧ rest = [.endSlash] then .failed .isDirectory
        else if nameLimit < name.utf8ByteSize then .failed .nameTooLong
        else match t.node? (l ++ [name]) with
        | none => if rest = [] then .arrived (.vacant (l ++ [name])) else .failed .notFound
        | some (.link target) => .linked l target rest
        | some _ => t.walk purpose (l ++ [name]) rest
    | some _ => .failed .notDirectory
    | none => .failed .notFound

/-- Where a path starts that is looked up in a directory. -/
def origin (directory : Location) (p : Path) : Location := if p.isAbsolute then [] else directory

/-- Goes on as long as links are met, but follows no more than the given number. -/
def follow (t : FileTree) (purpose : Purpose) (l : Location) (moves : List Move) :
    Nat → Except SystemError Place
  | 0 => .error .tooManyLinks
  | links + 1 =>
    match t.walk purpose l moves with
    | .arrived place => .ok place
    | .failed cause => .error cause
    | .linked directory target rest =>
      if target.text = "" then .error .notFound
      else t.follow purpose (origin directory target) (target.moves ++ rest) links

/-- A path that leads over more links than this leads nowhere. -/
def linkLimit : Nat := 40

/-- Where a path leads that is looked up in a directory. -/
def resolve (t : FileTree) (purpose : Purpose) (directory : Location) (p : Path) :
    Except SystemError Place :=
  match p.objection? with
  | some cause => .error cause
  | none => t.follow purpose (origin directory p) p.moves (linkLimit + 1)

/-- What a path leads to. -/
def find (t : FileTree) (directory : Location) (p : Path) : Except SystemError (Location × Node) :=
  match t.resolve .look directory p with
  | .ok (.occupied l node) => .ok (l, node)
  | .ok (.vacant _) => .error .notFound
  | .error cause => .error cause

/-- Whether a path leads to a file. -/
def isFile (t : FileTree) (directory : Location) (p : Path) : Bool :=
  match t.find directory p with
  | .ok (_, node) => node.isFile
  | .error _ => false

/-- The bytes of a file; those of a program are its image. -/
def bytes (t : FileTree) (directory : Location) (p : Path) : Except SystemError ByteArray :=
  match t.find directory p with
  | .ok (_, .file content) | .ok (_, .program content _) => .ok content
  | .ok (_, .locked) => .error .permissionDenied
  | .ok (_, .directory) => .error .isDirectory
  | .ok (_, .link _) => .error .notFound
  | .error cause => .error cause

/-- The text of a file. -/
def text (t : FileTree) (directory : Location) (p : Path) : Except SystemError String :=
  match t.bytes directory p with
  | .ok content =>
    match Text.ofBytes? content with
    | some text => .ok text
    | none => .error .invalidText
  | .error cause => .error cause

/-- The lines of a text file. -/
def lines (t : FileTree) (directory : Location) (p : Path) : Except SystemError (List String) :=
  (t.text directory p).map Text.fileLines

/-- Puts a node at a location, in place of what may stand there. -/
def put (t : FileTree) (l : Location) (node : Node) : FileTree :=
  ⟨t.nodes.filter (·.1 ≠ l) ++ [(l, node)]⟩

/-- Puts a node at a location, and directories above it where nothing stands yet. -/
def plant (t : FileTree) (l : Location) (node : Node) : FileTree :=
  let above := (List.range l.length).map l.take
  (above.foldl (fun t m => if (t.node? m).isSome then t else t.put m .directory) t).put l node

/-- Puts a file or a program where a path leads, given the file that may stand there. -/
def install (t : FileTree) (directory : Location) (p : Path) (node : Option Node → Node) :
    Except SystemError FileTree :=
  match t.resolve .make directory p with
  | .ok (.occupied _ .locked) => .error .permissionDenied
  | .ok (.occupied l old) =>
    if old.isFile then .ok (t.put l (node (some old))) else .error .isDirectory
  | .ok (.vacant l) => .ok (t.put l (node none))
  | .error cause => .error cause

/-- Writes a file, which is made if its name is free. -/
def write (t : FileTree) (directory : Location) (p : Path) (content : ByteArray) :
    Except SystemError FileTree :=
  t.install directory p fun
    | some old => old.rewritten content
    | none => .file content

/-- Goes to a directory by names, which are made directories where they are free. -/
def makeDirectories (t : FileTree) (directory : Location) : List String →
    Except SystemError (Location × FileTree)
  | [] => .ok (directory, t)
  | name :: names =>
    match t.resolve .look directory ⟨name⟩ with
    | .ok (.occupied l .directory) => t.makeDirectories l names
    | .ok (.occupied _ _) => .error .notDirectory
    | .ok (.vacant l) => (t.put l .directory).makeDirectories l names
    | .error cause => .error cause

/-- The names from one location down to another, if that one lies below it. -/
def below? (above l : Location) : Option (List String) :=
  match Text.afterLead? above l with
  | some [] | none => none
  | some names => some names

/-- The path given to a file that lies below a directory. -/
def pathBelow (dir : Path) (names : List String) : Path := dir.join ⟨String.intercalate "/" names⟩

/-- The files below a directory. Links to files count as files; links to directories are not gone
into. A path to a file lists that file, and the path `-` lists nothing. -/
def filesBelow (t : FileTree) (directory : Location) (dir : Path) : List Path :=
  if dir.text = "-" then []
  else match t.find directory dir with
  | .ok (l, .directory) =>
    (t.nodes.filterMap fun (m, _) => (below? l m).map (pathBelow dir)).filter
      (t.isFile directory)
  | .ok (_, node) => if node.isFile then [dir] else []
  | .error _ => []

/-- The tree as a scan sees it from a working directory. -/
def fileSystem (t : FileTree) (directory : Location) : FileSystem where
  list _ dir := t.filesBelow directory dir
  read _ file := (t.lines directory file).mapError .failed

end FileTree

end DependencyAudit
