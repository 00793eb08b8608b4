import DependencyAudit.Scan.Import

/-! What an audit finds, and how a finding is told. -/
namespace DependencyAudit

inductive Finding
  | missing (target : String) (found : SourceImport)
  | unused (target : String) (dependency : Dependency)
  | redundantImport (target : String) (found : SourceImport)
  | redundantDependency (target : String) (dependency : Dependency)
deriving DecidableEq

/-- The four kinds of findings. -/
inductive FindingKind
  | missing
  | unused
  | redundantImport
  | redundantDependency
deriving DecidableEq

/-- The kinds in the order in which they are counted. -/
def FindingKind.all : List FindingKind := [missing, unused, redundantImport, redundantDependency]

def FindingKind.label : FindingKind → String
  | missing => "Missing Dependency"
  | unused => "Unused Dependency"
  | redundantImport => "Redundant Import"
  | redundantDependency => "Redundant Dependency"

namespace Finding

def target : Finding → String
  | missing target _ | unused target _ | redundantImport target _
  | redundantDependency target _ => target

def kind : Finding → FindingKind
  | missing _ _ => .missing
  | unused _ _ => .unused
  | redundantImport _ _ => .redundantImport
  | redundantDependency _ _ => .redundantDependency

def label (f : Finding) : String := f.kind.label

/-- The module imported or depended on. -/
def moduleName : Finding → String
  | missing _ found | redundantImport _ found => found.moduleName
  | unused _ dependency | redundantDependency _ dependency => dependency.name

/-- The details of a finding, one to a line. -/
def details : Finding → String
  | missing _ found | redundantImport _ found =>
    "File:   " ++ found.file.displayName ++ "\nLine:   " ++ toString found.line ++
      "\nModule: " ++ found.moduleName
  | unused _ dependency | redundantDependency _ dependency =>
    "Dependency: " ++ dependency.name ++ "\nType:       " ++ dependency.kindLabel ++
      "\nPackage:    " ++ dependency.package?.getD "--"

/-- A finding in one line. -/
def summary (f : Finding) : String := f.target ++ ": " ++ f.label ++ " (" ++ f.moduleName ++ ")"

/-- Findings are compared by all they hold, files as paths and dependencies by their names. -/
def same : Finding → Finding → Bool
  | missing t i, missing u j => t == u && i.same j
  | unused t d, unused u e => t == u && d.same e
  | redundantImport t i, redundantImport u j => t == u && i.same j
  | redundantDependency t d, redundantDependency u e => t == u && d.same e
  | _, _ => false

end Finding

end DependencyAudit
