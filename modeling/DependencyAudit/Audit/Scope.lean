import DependencyAudit.Audit.Log
import DependencyAudit.Policy
import DependencyAudit.Scan.Import

/-! What an audit looks at: the policy may leave out targets, and imports by their modules. -/
namespace DependencyAudit

/-- Why an import is left out. -/
inductive Exemption
  | system
  | ignored
deriving DecidableEq

namespace Policy

def exemption? (p : Policy) (moduleName : String) : Option Exemption :=
  if p.isSystem moduleName then some .system
  else if p.isIgnored moduleName then some .ignored
  else none

/-- The targets that are looked at. -/
def targets (p : Policy) (package : Package) : List Target :=
  package.targets.filter fun t => !p.ignoresTarget t.name

/-- The imports that are looked at. -/
def imports (p : Policy) (found : List SourceImport) : List SourceImport :=
  found.filter fun i => (p.exemption? i.moduleName).isNone

def scopeSource : String := "spmlint::filter"

def scopeRecord (message : String) : LogRecord := ⟨.debug, scopeSource, message⟩

/-- One record for every target that is left out. -/
def targetsLog (p : Policy) (package : Package) : List LogRecord :=
  (package.targets.filter fun t => p.ignoresTarget t.name).map fun t =>
    scopeRecord ("Skipping target " ++ t.name ++ " - explicitly ignored")

/-- One record for every import that is left out. -/
def importsLog (p : Policy) (found : List SourceImport) : List LogRecord :=
  found.filterMap fun i =>
    (p.exemption? i.moduleName).map fun
      | .system => scopeRecord ("Skipping import of " ++ i.moduleName ++ " - system module")
      | .ignored => scopeRecord ("Skipping import of " ++ i.moduleName ++ " - explicitly ignored")

end Policy

/-- What a check is made of: a package, the imports of its targets, and a policy. -/
structure Audit where
  package : Package
  scan : PackageImports
  policy : Policy

namespace Audit

def targets (a : Audit) : List Target := a.policy.targets a.package

/-- The imports of a target that are looked at, if the target was scanned. -/
def imports? (a : Audit) (t : Target) : Option (List SourceImport) :=
  (a.scan.target? t.name).map fun entry => a.policy.imports entry.imports

/-- The records about the imports of a target that are left out. -/
def importsLog (a : Audit) (entry : TargetImports) : List LogRecord :=
  a.policy.importsLog entry.imports

def targetsLog (a : Audit) : List LogRecord := a.policy.targetsLog a.package

end Audit

/-- The record about a target that was not scanned. -/
def unscannedRecord (source : String) (t : Target) : LogRecord :=
  ⟨.debug, source, "Skipping target " ++ t.name ++ " - no imports found"⟩

end DependencyAudit
