import DependencyAudit.Audit.Missing
import DependencyAudit.Audit.Unused
import DependencyAudit.Audit.RedundantImports
import DependencyAudit.Audit.RedundantDependencies

/-! The findings of all four checks. -/
namespace DependencyAudit.Audit

/-- All findings, kind by kind. -/
def findings (a : Audit) : List Finding :=
  a.missing ++ a.unused ++ a.redundantImports ++ a.redundantDependencies

end DependencyAudit.Audit
