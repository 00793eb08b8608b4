import DependencyAudit.Audit.Finding
import DependencyAudit.Audit.Scope

/-!
Redundant imports: imports of modules that an owner imported in the same file passes on. The files
of a target are looked at in the order of paths, and each under its first spelling.
-/
namespace DependencyAudit.Audit

/-- Imports of one file stand together, in the order in which they were found. -/
def byFile (found : List SourceImport) : List (List SourceImport) :=
  (found.mergeSort fun a b => (a.file.order b.file).isLE).splitBy fun a b => a.file.same b.file

/-- The imports of one file that a declaration makes redundant. -/
def passedOn (r : Reexport) (inFile : List SourceImport) : List SourceImport :=
  if inFile.any (·.moduleName == r.owner) then inFile.filter fun i => r.passesOn i.moduleName
  else []

/-- An import is found once for every declaration that makes it redundant. -/
def redundantIn (p : Policy) (t : Target) (inFile : List SourceImport) : List Finding :=
  (p.reexports.flatMap fun r => passedOn r inFile).map (.redundantImport t.name)

def redundantImportsOf (p : Policy) (t : Target) (found : List SourceImport) : List Finding :=
  (byFile found).flatMap (redundantIn p t)

/-- The redundant imports of all targets that were scanned. -/
def redundantImports (a : Audit) : List Finding :=
  a.targets.flatMap fun t =>
    match a.imports? t with
    | none => []
    | some found => redundantImportsOf a.policy t found

def redundantImportSource : String := "spmlint::redundant_import"

def redundantImportRecord (message : String) : LogRecord := ⟨.debug, redundantImportSource, message⟩

/-- The record about one file, under its first spelling. -/
def fileLog (p : Policy) (t : Target) (inFile : List SourceImport) : List LogRecord :=
  inFile.head?.toList.map fun first =>
    redundantImportRecord
      ("Found " ++ toString (redundantIn p t inFile).length ++ " redundant imports in " ++
        first.file.text)

def redundantImportTargetLog (a : Audit) (t : Target) : List LogRecord :=
  redundantImportRecord ("Redundant Imports: processing target: " ++ t.name) ::
    match a.scan.target? t.name with
    | none => [unscannedRecord redundantImportSource t]
    | some entry =>
      a.importsLog entry ++ (byFile (a.policy.imports entry.imports)).flatMap (fileLog a.policy t)

/-- Without declarations there is nothing to look at. -/
def redundantImportsLog (a : Audit) : List LogRecord :=
  if a.policy.reexports.isEmpty then
    [redundantImportRecord "No exported imports configured, nothing to do!"]
  else a.targetsLog ++ a.targets.flatMap a.redundantImportTargetLog

end DependencyAudit.Audit
