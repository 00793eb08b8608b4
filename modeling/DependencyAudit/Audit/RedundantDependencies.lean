import DependencyAudit.Audit.Finding
import DependencyAudit.Audit.Scope

/-!
Redundant dependencies: dependencies on modules that some owner passes on. What a target itself
passes on it still has to depend on.
-/
namespace DependencyAudit.Audit

def isRedundant (p : Policy) (t : Target) (d : Dependency) : Bool :=
  p.reexports.any fun r => r.owner != t.name && r.passesOn d.name

def redundantDependenciesOf (p : Policy) (t : Target) : List Finding :=
  (t.dependencies.filter (isRedundant p t)).map (.redundantDependency t.name)

/-- The redundant dependencies of all targets. -/
def redundantDependencies (a : Audit) : List Finding :=
  a.targets.flatMap (redundantDependenciesOf a.policy)

def redundantDependencySource : String := "spmlint::redundant_dependency"

def redundantDependencyRecord (message : String) : LogRecord :=
  ⟨.debug, redundantDependencySource, message⟩

def redundantDependencyTargetLog (p : Policy) (t : Target) : List LogRecord :=
  [redundantDependencyRecord ("Redundant Dependencies: processing target: " ++ t.name),
   redundantDependencyRecord
     (if t.dependencies.isEmpty then
        "Target " ++ t.name ++ " has no dependencies, nothing to do!"
      else
        "Found " ++ toString (redundantDependenciesOf p t).length ++
          " redundant dependencies in " ++ t.name)]

def redundantDependenciesLog (a : Audit) : List LogRecord :=
  a.targetsLog ++ a.targets.flatMap (redundantDependencyTargetLog a.policy)

end DependencyAudit.Audit
