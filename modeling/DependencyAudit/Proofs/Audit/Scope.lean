import DependencyAudit.Proofs.Audit.Checks

/-!
What lies out of scope. The checks see an audit only through the targets and the imports that the
policy leaves, and through what is passed on, so that the policy may as well be carried out
beforehand, once for all of them.
-/
namespace DependencyAudit.Audit

variable {a b : Audit} {p q : Policy} {g g' : Target → List SourceImport → List Finding}

/-- Two audits that look at the same targets and at the same imports of each, under the same
re-exports. Targets that are left out may differ in all they depend on and import. -/
structure Agree (a b : Audit) : Prop where
  targets : a.targets = b.targets
  imports : ∀ t ∈ a.targets, a.imports? t = b.imports? t
  reexports : a.policy.reexports = b.policy.reexports

theorem coverage_congr (h : p.reexports = q.reexports) : coverage p = coverage q := by
  funext t m
  rw [coverage, coverage, Policy.exporter?, Policy.exporter?, h]

theorem missingOf_congr (h : p.reexports = q.reexports) : missingOf p = missingOf q := by
  funext t found
  rw [missingOf, missingOf, coverage_congr h]

theorem redundantImportsOf_congr (h : p.reexports = q.reexports) :
    redundantImportsOf p = redundantImportsOf q := by
  funext t found
  have hin : redundantIn p t = redundantIn q t := by
    funext inFile
    rw [redundantIn, redundantIn, h]
  rw [redundantImportsOf, redundantImportsOf, hin]

theorem redundantDependenciesOf_congr (h : p.reexports = q.reexports) :
    redundantDependenciesOf p = redundantDependenciesOf q := by
  funext t
  have hred : isRedundant p t = isRedundant q t := by
    funext d
    rw [isRedundant, isRedundant, h]
  rw [redundantDependenciesOf, redundantDependenciesOf, hred]

theorem Agree.eachScanned (h : a.Agree b) (hg : g = g') : a.eachScanned g = b.eachScanned g' := by
  rw [Audit.eachScanned, Audit.eachScanned, ← h.targets, ← hg]
  refine List.flatMap_congr fun t ht => ?_
  rw [findingsAt, findingsAt, h.imports t ht]

theorem Agree.missing (h : a.Agree b) : a.missing = b.missing :=
  h.eachScanned (missingOf_congr h.reexports)

theorem Agree.unused (h : a.Agree b) : a.unused = b.unused :=
  h.eachScanned rfl

theorem Agree.redundantImports (h : a.Agree b) : a.redundantImports = b.redundantImports :=
  h.eachScanned (redundantImportsOf_congr h.reexports)

theorem Agree.redundantDependencies (h : a.Agree b) :
    a.redundantDependencies = b.redundantDependencies := by
  rw [Audit.redundantDependencies, Audit.redundantDependencies, h.targets,
    redundantDependenciesOf_congr h.reexports]

theorem Agree.findings (h : a.Agree b) : a.findings = b.findings := by
  rw [Audit.findings, Audit.findings, h.missing, h.unused, h.redundantImports,
    h.redundantDependencies]

/-- The audit after its policy was carried out: ignored targets are gone from the package, imports
of system modules and of ignored modules from the scan, and the policy leaves nothing out. -/
def enforced (a : Audit) : Audit where
  package :=
    { a.package with
      targets := a.package.targets.filter fun t => !a.policy.ignoresTarget t.name }
  scan := ⟨a.scan.targets.map fun entry =>
    { entry with
      imports := entry.imports.filter fun i =>
        !(a.policy.isSystem i.moduleName || a.policy.isIgnored i.moduleName) }⟩
  policy := { a.policy with systemModules := [], ignoredModules := [], ignoredTargets := [] }

theorem imports_enforced (a : Audit) (found : List SourceImport) :
    a.enforced.policy.imports found = found := by
  simp [Policy.imports, isNone_exemption?, enforced, Policy.isSystem, Policy.isIgnored]

theorem agree_enforced (a : Audit) : a.enforced.Agree a where
  targets := by
    simp [targets, Policy.targets, enforced, Policy.ignoresTarget]
  imports t _ := by
    have hentry : a.enforced.scan.target? t.name =
        (a.scan.target? t.name).map fun entry =>
          { entry with imports := a.policy.imports entry.imports } := by
      simp only [PackageImports.target?, enforced, Policy.imports, isNone_exemption?,
        List.find?_map]
      rfl
    simp [imports?, hentry, imports_enforced, Function.comp_def]
  reexports := rfl

/-- Carrying the policy out beforehand changes no finding, and what it leaves out has no influence
on any check: audits that differ in nothing else have the same findings. -/
theorem findings_enforced (a : Audit) :
    a.enforced.findings = a.findings ∧
    ∀ b : Audit, a.Agree b →
      b.missing = a.missing ∧ b.unused = a.unused ∧ b.redundantImports = a.redundantImports ∧
        b.redundantDependencies = a.redundantDependencies ∧ b.findings = a.findings := by
  refine ⟨(agree_enforced a).findings, ?_⟩
  intro b h
  exact ⟨h.missing.symm, h.unused.symm, h.redundantImports.symm, h.redundantDependencies.symm,
    h.findings.symm⟩

/-- An ignored target, an import of a system module and one of an ignored owner come and go. -/
theorem findings_enforced_hidden :
    let policy : Policy :=
      { systemModules := ["Foundation"], reexports := [⟨"Owner", ["B"]⟩],
        ignoredModules := [⟨"Owner", none⟩], ignoredTargets := [⟨"Demo", none⟩] }
    let target : Target := { name := "T", kind := .regular, dependencies := [.sibling "B"] }
    let imported (line : Nat) (m : String) : SourceImport := ⟨⟨"f.swift"⟩, line, "import " ++ m, m⟩
    let a : Audit :=
      ⟨⟨"P", [target, { name := "Demo", kind := .test, dependencies := [.sibling "B"] }]⟩,
        ⟨[⟨"T", .regular, [imported 1 "Owner", imported 2 "B", imported 3 "Foundation", imported 4 "C"]⟩,
          ⟨"Demo", .test, [imported 1 "C"]⟩]⟩, policy⟩
    let b : Audit :=
      ⟨⟨"P", [target]⟩, ⟨[⟨"T", .regular, [imported 2 "B", imported 4 "C"]⟩]⟩, policy⟩
    a.Agree b ∧ b.findings = a.findings ∧ a.missing = [.missing "T" (imported 4 "C")] := by
  intro policy target imported a b
  have hagree : a.Agree b := ⟨by decide, by decide, rfl⟩
  obtain ⟨_, _, _, _, hfindings⟩ := (findings_enforced a).2 b hagree
  exact ⟨hagree, hfindings, by decide⟩

end DependencyAudit.Audit
