import DependencyAudit.Audit.Finding
import DependencyAudit.Audit.Scope

/-!
Missing dependencies. An import is covered if its target depends on the module, or on the owner of
the first declaration that passes the module on.
-/
namespace DependencyAudit.Audit

/-- How an import is covered. -/
inductive Coverage
  | direct
  | via (owner : String)
  | uncovered
deriving DecidableEq

def coverage (p : Policy) (t : Target) (moduleName : String) : Coverage :=
  if t.dependsOn moduleName then .direct
  else match p.exporter? moduleName with
  | some r => if t.dependsOn r.owner then .via r.owner else .uncovered
  | none => .uncovered

/-- The findings of one target among its imports. -/
def missingOf (p : Policy) (t : Target) (imports : List SourceImport) : List Finding :=
  (imports.filter fun i => coverage p t i.moduleName = .uncovered).map (.missing t.name)

/-- The imports that nothing covers. Targets that were not scanned are passed over. -/
def missing (a : Audit) : List Finding :=
  a.targets.flatMap fun t =>
    match a.imports? t with
    | none => []
    | some imports => missingOf a.policy t imports

def missingSource : String := "spmlint::missing_dependency"

def missingRecord (level : LogLevel) (message : String) : LogRecord :=
  ⟨level, missingSource, message⟩

/-- The records about one import. -/
def coverageLog (p : Policy) (t : Target) (moduleName : String) : List LogRecord :=
  match coverage p t moduleName with
  | .direct => [missingRecord .trace ("Found dependency for import of " ++ moduleName)]
  | .via owner =>
    [missingRecord .debug ("No dependency found for " ++ moduleName),
     missingRecord .debug
       ("Found dependency for exported import of " ++ moduleName ++ " via " ++ owner)]
  | .uncovered => [missingRecord .debug ("No dependency found for " ++ moduleName)]

def missingTargetLog (a : Audit) (t : Target) : List LogRecord :=
  missingRecord .debug ("Missing Dependencies: processing target: " ++ t.name) ::
    match a.scan.target? t.name with
    | none => [unscannedRecord missingSource t]
    | some entry =>
      a.importsLog entry ++
        (a.policy.imports entry.imports).flatMap fun i => coverageLog a.policy t i.moduleName

def missingLog (a : Audit) : List LogRecord :=
  a.targetsLog ++ a.targets.flatMap a.missingTargetLog ++
    [missingRecord .debug
      ("Found " ++ toString a.missing.length ++ " missing dependencies")]

end DependencyAudit.Audit
