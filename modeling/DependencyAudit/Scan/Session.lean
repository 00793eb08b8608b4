import DependencyAudit.Scan.Import
import DependencyAudit.Scan.Sources

/-!
Scanning a package. A file that several targets share, or that is listed under several spellings, is
read once: what was found in it is kept for the rest of the scan.
-/
namespace DependencyAudit

/-- A question for the lines of a file: its number and the answer to it. -/
structure Session.Reading where
  number : Nat
  file : Path
  answer : Except ReadError (List String)

/-- The state of a scan: the number of the next question to the file system, the imports of the
files read so far, the readings so far, whether they succeeded or not, and the warnings. -/
structure Session where
  clock : Nat := 0
  cache : List (List Component × List SourceImport) := []
  readings : List Session.Reading := []
  warnings : List Warning := []

namespace Session

def cached? (s : Session) (file : Path) : Option (List SourceImport) :=
  s.cache.lookup file.components

/-- The imports of a file, read unless they are known. -/
def file (fs : FileSystem) (s : Session) (file : Path) : Session × List SourceImport :=
  match s.cached? file with
  | some found => (s, found)
  | none =>
    match fs.read s.clock file with
    | .ok lines =>
      let found := SourceImport.ofLines file lines
      ({ s with
          clock := s.clock + 1
          cache := s.cache ++ [(file.components, found)]
          readings := s.readings ++ [⟨s.clock, file, .ok lines⟩] }, found)
    | .error error =>
      ({ s with
          clock := s.clock + 1
          readings := s.readings ++ [⟨s.clock, file, .error error⟩]
          warnings := s.warnings ++ [.unreadable file error] }, [])

/-- The imports of files, in order. -/
def files (fs : FileSystem) (s : Session) : List Path → Session × List SourceImport
  | [] => (s, [])
  | p :: ps =>
    let (s, found) := s.file fs p
    let (s, rest) := s.files fs ps
    (s, found ++ rest)

def target (fs : FileSystem) (manifestDir : Path) (s : Session) (t : Target) :
    Session × TargetImports :=
  let listed := fs.list s.clock (t.sourceDirectory manifestDir)
  let s := { s with clock := s.clock + 1, warnings := s.warnings ++ t.objections listed }
  let (s, imports) := s.files fs (t.sources listed)
  (s, { target := t.name, kind := t.kind, imports })

def targets (fs : FileSystem) (manifestDir : Path) (s : Session) :
    List Target → Session × List TargetImports
  | [] => (s, [])
  | t :: ts =>
    let (s, imports) := s.target fs manifestDir t
    let (s, rest) := s.targets fs manifestDir ts
    (s, imports :: rest)

end Session

/-- Scans the targets of a package in declaration order. -/
def Package.scanSession (p : Package) (fs : FileSystem) (manifestDir : Path) :
    Session × PackageImports :=
  let (s, imports) := Session.targets fs manifestDir {} p.targets
  (s, ⟨imports⟩)

/-- The imports of all targets of a package. -/
def Package.scan (p : Package) (fs : FileSystem) (manifestDir : Path) : PackageImports :=
  (p.scanSession fs manifestDir).2

end DependencyAudit
