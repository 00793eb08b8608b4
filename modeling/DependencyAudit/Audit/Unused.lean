import DependencyAudit.Audit.Finding
import DependencyAudit.Audit.Scope

/-! Unused dependencies: those that no import of their target names. -/
namespace DependencyAudit.Audit

def imports (imports : List SourceImport) (name : String) : Bool :=
  imports.any (·.moduleName == name)

/-- The dependencies of a target that no import names, the first one of every name. -/
def unusedDependencies (t : Target) (found : List SourceImport) : List Dependency :=
  Dependency.distinct (t.dependencies.filter fun d => !imports found d.name)

def unusedOf (t : Target) (found : List SourceImport) : List Finding :=
  (unusedDependencies t found).map (.unused t.name)

/-- The dependencies that are never imported. Targets that were not scanned are passed over. -/
def unused (a : Audit) : List Finding :=
  a.targets.flatMap fun t =>
    match a.imports? t with
    | none => []
    | some found => unusedOf t found

def unusedSource : String := "spmlint::unused_dependency"

def unusedRecord (level : LogLevel) (message : String) : LogRecord :=
  ⟨level, unusedSource, message⟩

/-- How many different dependencies of the target are imported. -/
def usedCount (t : Target) (found : List SourceImport) : Nat :=
  (Dependency.distinct (t.dependencies.filter fun d => imports found d.name)).length

def unusedTargetLog (a : Audit) (t : Target) : List LogRecord :=
  unusedRecord .debug ("Unused Dependencies: processing target: " ++ t.name) ::
    match a.scan.target? t.name with
    | none => [unscannedRecord unusedSource t]
    | some entry =>
      let found := a.policy.imports entry.imports
      a.importsLog entry ++
        unusedRecord .trace
          ("Target " ++ t.name ++ " uses " ++ toString (usedCount t found) ++ " dependencies") ::
        (unusedDependencies t found).map fun d =>
          unusedRecord .debug ("Dependency " ++ d.name ++ " is never imported")

def unusedLog (a : Audit) : List LogRecord :=
  a.targetsLog ++ a.targets.flatMap a.unusedTargetLog ++
    [unusedRecord .debug ("Found " ++ toString a.unused.length ++ " unused dependencies")]

end DependencyAudit.Audit
