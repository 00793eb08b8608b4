import DependencyAudit.Proofs.Audit.Coverage
import DependencyAudit.Proofs.Audit.Exemptions

/-!
What is found about the modules of the system. Their imports are not looked at, but dependencies on
them are: such a dependency counts as unused whether or not it is imported, and as redundant if
another owner passes the module on.
-/
namespace DependencyAudit

variable {ds : List Dependency} {m : String}

namespace Dependency

theorem find?_name_eq_none_iff :
    ds.find? (fun d => d.name = m) = none ↔ m ∉ ds.map (·.name) := by
  simp

/-- Of one name there is only one first declaration. -/
theorem firsts_filter_name (ds : List Dependency) (m : String) :
    (firsts ds).filter (fun d => d.name = m) = (ds.find? fun d => d.name = m).toList := by
  induction ds using List.reverseRecOn with
  | nil => rfl
  | append_singleton ds d ih =>
    rw [firsts_concat, List.find?_append]
    by_cases hd : d.name = m
    · by_cases hmem : d.name ∈ ds.map (·.name)
      · obtain ⟨e, he⟩ : ∃ e, ds.find? (fun d => d.name = m) = some e := by
          rw [← Option.ne_none_iff_exists', ne_eq, find?_name_eq_none_iff, not_not]
          exact hd ▸ hmem
        rw [if_pos hmem, ih, he, Option.some_or]
      · have hnone : ds.find? (fun d => d.name = m) = none :=
          find?_name_eq_none_iff.2 (hd ▸ hmem)
        rw [if_neg hmem, List.filter_append, ih, hnone]
        simp [hd]
    · have hskip : [d].find? (fun d => d.name = m) = none := by simp [hd]
      rw [hskip, Option.or_none, ← ih]
      by_cases hmem : d.name ∈ ds.map (·.name)
      · rw [if_pos hmem]
      · rw [if_neg hmem, List.filter_append, List.filter_singleton]
        simp [hd]

end Dependency

namespace Audit

variable {a : Audit} {t : Target} {found : List SourceImport} {entry : TargetImports}

theorem not_exempts_of_mem (hf : a.imports? t = some found) {i : SourceImport} (hi : i ∈ found) :
    ¬ a.policy.Exempts i.moduleName := by
  obtain ⟨entry, _, rfl⟩ := Option.map_eq_some_iff.1 hf
  exact Policy.isNone_exemption?_iff.1 (List.mem_filter.1 hi).2

/-- A check that reports imports only finds nothing about a module whose imports are not looked at. -/
theorem filter_eachScanned_of_exempts {check : Target → List SourceImport → List Finding}
    (hcheck : ∀ t found, ∀ f ∈ check t found, ∃ i ∈ found, f.moduleName = i.moduleName)
    (h : a.policy.Exempts m) :
    (a.eachScanned check).filter (fun f => f.moduleName = m) = [] := by
  refine List.filter_eq_nil_iff.2 fun f hf => ?_
  obtain ⟨t, _, found, himports, hf⟩ := mem_eachScanned.1 hf
  obtain ⟨i, hi, hname⟩ := hcheck t found f hf
  rw [decide_eq_true_eq, hname]
  rintro rfl
  exact not_exempts_of_mem himports hi h

theorem filter_missing_of_exempts (h : a.policy.Exempts m) :
    a.missing.filter (fun f => f.moduleName = m) = [] := by
  rw [missing_eq]
  refine filter_eachScanned_of_exempts (fun t found f hf => ?_) h
  obtain ⟨i, hi, rfl⟩ := List.mem_map.1 hf
  exact ⟨i, (List.mem_filter.1 hi).1, rfl⟩

theorem filter_redundantImports_of_exempts (h : a.policy.Exempts m) :
    a.redundantImports.filter (fun f => f.moduleName = m) = [] := by
  rw [redundantImports_eq]
  refine filter_eachScanned_of_exempts (fun t found f hf => ?_) h
  obtain ⟨i, hi, rfl, _⟩ := mem_redundantImportsOf.1 hf
  exact ⟨i, hi, rfl⟩

/-- A dependency that no import names is unused in its first declaration. -/
theorem filter_unusedOf (hm : m ∉ found.map (·.moduleName)) :
    (unusedOf t found).filter (fun f => f.moduleName = m) =
      (t.dependencies.find? fun d => d.name = m).toList.map (.unused t.name) := by
  rw [unusedOf, List.filter_map, unusedDependencies_eq_firsts, List.filter_filter,
    ← Dependency.firsts_filter_name]
  refine congrArg _ (List.filter_congr fun d _ => ?_)
  by_cases hd : d.name = m
  · simp [Finding.moduleName, hd, hm]
  · simp [Finding.moduleName, hd]

theorem filter_unused_of_exempts (h : a.policy.Exempts m) :
    a.unused.filter (fun f => f.moduleName = m) = a.scanned.flatMap fun (t, _) =>
      (t.dependencies.find? fun d => d.name = m).toList.map (.unused t.name) := by
  rw [unused_eq, eachScanned_eq, examined_eq_scanned, List.flatMap_map, List.filter_flatMap]
  refine List.flatMap_congr fun x _ => filter_unusedOf ?_
  intro hmem
  obtain ⟨i, hi, rfl⟩ := List.mem_map.1 hmem
  have hexamined := (List.mem_filter.1 hi).2
  rw [decide_eq_true_eq] at hexamined
  exact hexamined h

theorem filter_redundantDependenciesOf (p : Policy) (t : Target) (m : String) :
    (redundantDependenciesOf p t).filter (fun f => f.moduleName = m) =
      (t.dependencies.filter fun d =>
        d.name = m ∧ ∃ r ∈ p.reexports, r.owner ≠ t.name ∧ m ∈ r.modules).map
          (.redundantDependency t.name) := by
  rw [redundantDependenciesOf, List.filter_map, List.filter_filter]
  refine congrArg _ (List.filter_congr fun d _ => ?_)
  by_cases hd : d.name = m
  · rw [Bool.eq_iff_iff]
    simp [Finding.moduleName, isRedundant, Reexport.passesOn_iff, hd]
  · simp [Finding.moduleName, hd]

theorem mem_scanned : (t, entry) ∈ a.scanned ↔
    t ∈ a.targets ∧ a.scan.target? t.name = some entry := by
  rw [scanned, ← targets_eq, List.mem_filterMap]
  constructor
  · rintro ⟨u, hu, hentry⟩
    obtain ⟨e, he, heq⟩ := Option.map_eq_some_iff.1 hentry
    cases heq
    exact ⟨hu, he⟩
  · rintro ⟨ht, hentry⟩
    exact ⟨t, ht, Option.map_eq_some_iff.2 ⟨entry, hentry, rfl⟩⟩

/-- What is found about a module whose imports are not looked at. -/
theorem filter_findings_of_exempts (h : a.policy.Exempts m) :
    a.findings.filter (fun f => f.moduleName = m) =
      (a.scanned.flatMap fun (t, _) =>
        (t.dependencies.find? fun d => d.name = m).toList.map (.unused t.name)) ++
      a.targets.flatMap fun t => (t.dependencies.filter fun d =>
        d.name = m ∧ ∃ r ∈ a.policy.reexports, r.owner ≠ t.name ∧ m ∈ r.modules).map
          (.redundantDependency t.name) := by
  rw [findings, List.filter_append, List.filter_append, List.filter_append,
    filter_missing_of_exempts h, filter_unused_of_exempts h, filter_redundantImports_of_exempts h,
    List.nil_append, List.append_nil, redundantDependencies, List.filter_flatMap]
  simp only [filter_redundantDependenciesOf]

/-- Nothing is found about such a module just if the targets that depend on it were not scanned and
have it passed on by nobody else. -/
theorem forall_findings_ne_iff (h : a.policy.Exempts m) :
    (∀ f ∈ a.findings, f.moduleName ≠ m) ↔
      ∀ t ∈ a.targets, m ∈ t.dependencies.map (·.name) →
        a.scan.target? t.name = none ∧
          ∀ r ∈ a.policy.reexports, m ∈ r.modules → r.owner = t.name := by
  have hnil : (∀ f ∈ a.findings, f.moduleName ≠ m) ↔
      a.findings.filter (fun f => f.moduleName = m) = [] := by
    simp [List.filter_eq_nil_iff]
  rw [hnil, filter_findings_of_exempts h, List.append_eq_nil_iff, List.flatMap_eq_nil_iff,
    List.flatMap_eq_nil_iff]
  constructor
  · rintro ⟨hunused, hredundant⟩ t ht hm
    obtain ⟨d, hd, rfl⟩ := List.mem_map.1 hm
    constructor
    · rw [Option.eq_none_iff_forall_ne_some]
      intro entry hentry
      have hnone := hunused (t, entry) (mem_scanned.2 ⟨ht, hentry⟩)
      rw [List.map_eq_nil_iff, Option.toList_eq_nil_iff, Dependency.find?_name_eq_none_iff] at hnone
      exact hnone hm
    · intro r hr hpass
      by_contra howner
      have hnone := List.map_eq_nil_iff.1 (hredundant t ht)
      refine List.filter_eq_nil_iff.1 hnone d hd ?_
      exact decide_eq_true ⟨rfl, r, hr, howner, hpass⟩
  · intro hall
    constructor
    · rintro ⟨t, entry⟩ hmem
      obtain ⟨ht, hentry⟩ := mem_scanned.1 hmem
      rw [List.map_eq_nil_iff, Option.toList_eq_nil_iff, Dependency.find?_name_eq_none_iff]
      intro hm
      rw [(hall t ht hm).1] at hentry
      cases hentry
    · intro t ht
      refine List.map_eq_nil_iff.2 (List.filter_eq_nil_iff.2 fun d hd hred => ?_)
      obtain ⟨rfl, r, hr, howner, hpass⟩ := of_decide_eq_true hred
      exact howner ((hall t ht (List.mem_map_of_mem hd)).2 r hr hpass)

/-- About a module of the system no import is reported. Every scanned target that depends on it has
the first of these dependencies reported as unused, and every target all of them as redundant if
another owner passes the module on; so nothing is reported exactly if no target that is looked at
has such a dependency and was scanned or has the module passed on. -/
theorem findings_about_system (a : Audit) (m : String) (h : m ∈ a.policy.systemModules) :
    a.findings.filter (fun f => f.moduleName = m) =
      (a.scanned.flatMap fun (t, _) =>
        (t.dependencies.find? fun d => d.name = m).toList.map (.unused t.name)) ++
      (a.package.targets.filter fun t => t.name ∉ a.policy.ignoredTargets.map (·.name)).flatMap
        (fun t => (t.dependencies.filter fun d =>
          d.name = m ∧ ∃ r ∈ a.policy.reexports, r.owner ≠ t.name ∧ m ∈ r.modules).map
            (.redundantDependency t.name)) ∧
    ((∀ f ∈ a.findings, f.moduleName ≠ m) ↔
      ∀ t ∈ a.package.targets, t.name ∉ a.policy.ignoredTargets.map (·.name) →
        m ∈ t.dependencies.map (·.name) →
          a.scan.target? t.name = none ∧
            ∀ r ∈ a.policy.reexports, m ∈ r.modules → r.owner = t.name) := by
  have hexempt : a.policy.Exempts m := Or.inl h
  rw [← targets_eq]
  refine ⟨filter_findings_of_exempts hexempt, ?_⟩
  rw [forall_findings_ne_iff hexempt, targets_eq]
  simp only [List.mem_filter, decide_eq_true_eq, and_imp]

/-- A module of the system is imported, is declared twice by one target and is passed on by another,
which depends on it too; a second one is imported only. -/
theorem findings_about_system_declared :
    let imported (line : Nat) (m : String) : SourceImport := ⟨⟨"f.swift"⟩, line, "import " ++ m, m⟩
    let product : Dependency := .product "Foundation" "foundation"
    let sibling : Dependency := .sibling "Foundation"
    let a : Audit :=
      ⟨⟨"P", [{ name := "T", kind := .regular, dependencies := [.sibling "UI", product, sibling] },
          { name := "UI", kind := .regular, dependencies := [sibling] },
          { name := "Demo", kind := .executable, dependencies := [sibling] }]⟩,
        ⟨[⟨"T", .regular, [imported 1 "UI", imported 2 "Foundation", imported 3 "XCTest"]⟩,
          ⟨"UI", .regular, [imported 1 "Foundation"]⟩, ⟨"Demo", .executable, []⟩]⟩,
        { systemModules := ["XCTest", "Foundation"], reexports := [⟨"UI", ["XCTest", "Foundation"]⟩],
          ignoredTargets := [⟨"Demo", none⟩] }⟩
    "Foundation" ∈ a.policy.systemModules ∧ "XCTest" ∈ a.policy.systemModules ∧
      a.findings.filter (fun f => f.moduleName = "Foundation") =
        [.unused "T" product, .unused "UI" sibling, .redundantDependency "T" product,
          .redundantDependency "T" sibling] ∧
      ∀ f ∈ a.findings, f.moduleName ≠ "XCTest" := by
  intro imported product sibling a
  have hdeclared : "Foundation" ∈ a.policy.systemModules := by decide
  have himported : "XCTest" ∈ a.policy.systemModules := by decide
  refine ⟨hdeclared, himported, ?_, ?_⟩
  · rw [(findings_about_system a "Foundation" hdeclared).1]
    decide
  · rw [(findings_about_system a "XCTest" himported).2]
    decide

/-- An imported dependency on a module of the system is reported, and by two checks. -/
theorem not_silent_about_system :
    let target : Target :=
      { name := "T", kind := .regular, dependencies := [.sibling "Foundation"] }
    let a : Audit :=
      ⟨⟨"P", [target]⟩,
        ⟨[⟨"T", .regular, [⟨⟨"f.swift"⟩, 1, "import Foundation", "Foundation"⟩]⟩]⟩,
        { systemModules := ["Foundation"], reexports := [⟨"UI", ["Foundation"]⟩] }⟩
    "Foundation" ∈ a.policy.systemModules ∧
      a.unused = [.unused "T" (.sibling "Foundation")] ∧
      a.redundantDependencies = [.redundantDependency "T" (.sibling "Foundation")] ∧
      ¬ ∀ m ∈ a.policy.systemModules, ∀ f ∈ a.findings, f.moduleName ≠ m := by
  intro target a
  have hsystem : "Foundation" ∈ a.policy.systemModules := by decide
  have hunused : a.unused = [.unused "T" (.sibling "Foundation")] := by decide
  refine ⟨hsystem, hunused, by decide, ?_⟩
  intro hsilent
  have hmem : Finding.unused "T" (.sibling "Foundation") ∈ a.findings := by
    rw [findings, hunused]
    simp
  exact hsilent "Foundation" hsystem _ hmem rfl

end Audit

end DependencyAudit
