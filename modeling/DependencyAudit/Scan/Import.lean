import DependencyAudit.ImportLine
import DependencyAudit.Package

/-! The imports found in the sources of a package, target by target. -/
namespace DependencyAudit

/-- An import declaration; lines count from one. -/
structure SourceImport where
  file : Path
  line : Nat
  rawText : String
  moduleName : String
deriving DecidableEq, Inhabited

structure TargetImports where
  target : String
  kind : TargetKind
  imports : List SourceImport
deriving DecidableEq, Inhabited

structure PackageImports where
  targets : List TargetImports
deriving DecidableEq, Inhabited

namespace SourceImport

/-- The import that a line of a file declares. -/
def ofLine? (file : Path) (rawText : String) (line : Nat) : Option SourceImport :=
  (ImportLine.module? rawText).map fun moduleName => { file, line, rawText, moduleName }

/-- The imports of a file with the given lines. -/
def ofLines (file : Path) (lines : List String) : List SourceImport :=
  (lines.zipIdx 1).filterMap fun (rawText, line) => ofLine? file rawText line

/-- Imports are compared by all they hold, their files as paths. -/
def same (a b : SourceImport) : Bool :=
  a.file.same b.file && a.line == b.line && a.rawText == b.rawText && a.moduleName == b.moduleName

end SourceImport

/-- The entry of a target: the first one of that name. -/
def PackageImports.target? (p : PackageImports) (name : String) : Option TargetImports :=
  p.targets.find? (·.target == name)

/-- How many imports were found in all targets. -/
def PackageImports.count (p : PackageImports) : Nat := p.targets.foldl (fun n t => n + t.imports.length) 0

end DependencyAudit
