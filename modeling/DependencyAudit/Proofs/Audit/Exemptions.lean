import DependencyAudit.Proofs.Audit.Redundancy
import DependencyAudit.Proofs.Audit.Scope
import DependencyAudit.Proofs.Audit.Use
import Mathlib.Data.List.Perm.Basic

/-!
Exempting more modules. The checks then look at fewer imports: findings about the exempt modules go
from what is missing, redundant imports go with their own module or with its owner, and dependencies
come to be unused whose only imports are no longer looked at.
-/
namespace DependencyAudit

variable {found others g k : List SourceImport} {files : List Path} {p : Policy} {t : Target}
  {r : Reexport}

/-- Of the files of all imports those remain in which imports are left. -/
theorem Files.of_sublist (h : Files files found) (hsub : others.Sublist found) :
    Files (files.filter fun file => others.any (·.file.same file)) others where
  ascending := h.ascending.filter _
  complete i hi := by
    obtain ⟨file, hfile, hs⟩ := h.complete i (hsub.subset hi)
    exact ⟨file, List.mem_filter.2 ⟨hfile, List.any_eq_true.2 ⟨i, hi, hs⟩⟩, hs⟩
  occupied file hfile := List.any_eq_true.1 (List.mem_filter.1 hfile).2

namespace Audit

variable {a : Audit}

/-! Fewer imports -/

theorem passedOn_sublist (h : g.Sublist k) (r : Reexport) :
    (passedOn r g).Sublist (passedOn r k) := by
  rw [passedOn]
  split
  · rename_i hany
    have hany' : k.any (·.moduleName == r.owner) = true := by
      obtain ⟨i, hi, howner⟩ := List.any_eq_true.1 hany
      exact List.any_eq_true.2 ⟨i, h.subset hi, howner⟩
    rw [passedOn, if_pos hany']
    exact h.filter _
  · exact List.nil_sublist _

theorem redundantIn_sublist (h : g.Sublist k) : (redundantIn p t g).Sublist (redundantIn p t k) :=
  (List.Sublist.flatMap_right _ fun r _ => passedOn_sublist h r).map _

theorem redundantImportsOf_sublist (h : others.Sublist found) :
    (redundantImportsOf p t others).Sublist (redundantImportsOf p t found) := by
  have hfiles := files_byFile found
  rw [redundantImportsOf_eq hfiles, redundantImportsOf_eq (hfiles.of_sublist h)]
  -- files without imports that are left have no findings left
  refine List.Sublist.trans (List.filter_sublist.flatMap _) ?_
  exact List.Sublist.flatMap_right _ fun file _ => redundantIn_sublist (h.filter _)

theorem missingOf_filter (keep : String → Bool) :
    missingOf p t (found.filter fun i => keep i.moduleName) =
      (missingOf p t found).filter fun f => keep f.moduleName := by
  rw [missingOf, missingOf, List.filter_map, List.filter_comm]
  rfl

theorem filter_eachScanned (keep : Finding → Bool)
    (check : Target → List SourceImport → List Finding) :
    (a.eachScanned check).filter keep = a.eachScanned fun t found => (check t found).filter keep := by
  rw [eachScanned_eq, eachScanned_eq, List.filter_flatMap]

theorem unusedOf_sublist (h : others.Sublist found) :
    (unusedOf t found).Sublist (unusedOf t others) := by
  rw [unusedOf, unusedOf, unusedDependencies_eq_firsts, unusedDependencies_eq_firsts]
  apply List.Sublist.map
  apply List.monotone_filter_right
  intro d hd
  simp only [decide_eq_true_eq] at hd ⊢
  exact fun hmem => hd ((h.map _).subset hmem)

theorem modules_filter (found : List SourceImport) (keep : String → Bool) :
    (found.filter fun i => keep i.moduleName).map (·.moduleName) =
      (found.map (·.moduleName)).filter keep :=
  List.filter_map.symm

/-- What is unused when imports are left out is what was so before and what only they named. -/
theorem unusedOf_filter_perm (keep : String → Bool) :
    (unusedOf t (found.filter fun i => keep i.moduleName)).Perm
      (unusedOf t found ++ ((Dependency.firsts t.dependencies).filter fun d =>
        d.name ∈ found.map (·.moduleName) ∧ keep d.name = false).map (.unused t.name)) := by
  rw [unusedOf, unusedOf, ← List.map_append, unusedDependencies_eq_firsts,
    unusedDependencies_eq_firsts, modules_filter]
  apply List.Perm.map
  simp only [List.mem_filter]
  have hsplit := List.filter_append_perm (fun d => decide (d.name ∉ found.map (·.moduleName)))
    ((Dependency.firsts t.dependencies).filter fun d =>
      ¬ (d.name ∈ found.map (·.moduleName) ∧ keep d.name = true))
  rw [List.filter_filter, List.filter_filter] at hsplit
  refine hsplit.symm.trans (List.Perm.of_eq ?_)
  congr 1
  · refine List.filter_congr fun d _ => ?_
    by_cases hd : d.name ∈ found.map (·.moduleName)
    · simp [hd]
    · simp [hd]
  · refine List.filter_congr fun d _ => ?_
    by_cases hd : d.name ∈ found.map (·.moduleName)
    · simp [hd]
    · simp [hd]

/-! More exempt modules -/

/-- The audit under a policy with other modules of the system and other ignored modules. -/
def exempting (a : Audit) (system : List String) (ignored : List IgnoredModule) : Audit :=
  { a with policy := { a.policy with systemModules := system, ignoredModules := ignored } }

variable {system : List String} {ignored : List IgnoredModule}

/-- If more modules are exempt, a check sees what it saw before without the imports of those. -/
theorem eachScanned_exempting
    (h : ∀ m, a.policy.Exempts m → (a.exempting system ignored).policy.Exempts m)
    (check : Target → List SourceImport → List Finding) :
    (a.exempting system ignored).eachScanned check = a.eachScanned fun t found =>
      check t (found.filter fun i => ¬ (a.exempting system ignored).policy.Exempts i.moduleName) := by
  rw [eachScanned_eq, eachScanned_eq, examined_eq_scanned, examined_eq_scanned, List.flatMap_map,
    List.flatMap_map]
  apply List.flatMap_congr
  intro x _
  apply congrArg (check x.1)
  rw [List.filter_filter]
  refine List.filter_congr fun i _ => ?_
  by_cases hi : (a.exempting system ignored).policy.Exempts i.moduleName
  · simp [hi]
  · simp [hi, mt (h i.moduleName) hi]

theorem unused_exempting
    (h : ∀ m, a.policy.Exempts m → (a.exempting system ignored).policy.Exempts m) :
    (a.exempting system ignored).unused = a.eachScanned fun t found =>
      unusedOf t (found.filter fun i =>
        ¬ (a.exempting system ignored).policy.Exempts i.moduleName) := by
  rw [unused_eq, eachScanned_exempting h]

theorem perm_unused_exempting
    (h : ∀ m, a.policy.Exempts m → (a.exempting system ignored).policy.Exempts m) :
    (a.exempting system ignored).unused.Perm (a.unused ++ a.scanned.flatMap fun (t, entry) =>
      ((Dependency.firsts t.dependencies).filter fun d =>
        d.name ∈ entry.imports.map (·.moduleName) ∧ ¬ a.policy.Exempts d.name ∧
          (a.exempting system ignored).policy.Exempts d.name).map (.unused t.name)) := by
  rw [unused_exempting h, unused_eq, eachScanned_eq, eachScanned_eq, examined_eq_scanned,
    List.flatMap_map, List.flatMap_map]
  refine List.Perm.trans ?_ (List.flatMap_append_perm _ _ _).symm
  apply List.Perm.flatMap_left
  rintro ⟨t, entry⟩ _
  refine (unusedOf_filter_perm fun m => ¬ (a.exempting system ignored).policy.Exempts m).trans
    (List.Perm.of_eq ?_)
  congr 2
  refine List.filter_congr fun d _ => ?_
  have hmodules := modules_filter entry.imports fun m => ¬ a.policy.Exempts m
  simp only [hmodules, List.mem_filter, decide_eq_true_eq, decide_eq_false_iff_not, not_not,
    and_assoc]

/-- With more exempt modules what is missing loses just the findings about them, redundant imports
can only go, redundant dependencies stay, and to what is unused come the first declarations of the
names that a target imports and that have become exempt. -/
theorem findings_exempting (a : Audit) (system : List String) (ignored : List IgnoredModule)
    (h : ∀ m, a.policy.Exempts m → m ∈ system ∨ m ∈ ignored.map (·.name)) :
    let b := a.exempting system ignored
    b.missing = a.missing.filter (fun f => ¬ b.policy.Exempts f.moduleName) ∧
    b.redundantImports.Sublist a.redundantImports ∧
    b.redundantDependencies = a.redundantDependencies ∧
    a.unused.Sublist b.unused ∧
    b.unused.Perm (a.unused ++ a.scanned.flatMap fun (t, entry) =>
      ((Dependency.firsts t.dependencies).filter fun d =>
        d.name ∈ entry.imports.map (·.moduleName) ∧ ¬ a.policy.Exempts d.name ∧
          b.policy.Exempts d.name).map (.unused t.name)) := by
  intro b
  have hb : ∀ m, a.policy.Exempts m → b.policy.Exempts m := h
  refine ⟨?_, ?_, rfl, ?_, perm_unused_exempting hb⟩
  · rw [missing_eq, eachScanned_exempting hb, missing_eq, filter_eachScanned]
    exact eachScanned_congr fun t _ found _ => missingOf_filter fun m => ¬ b.policy.Exempts m
  · rw [redundantImports_eq, eachScanned_exempting hb, redundantImports_eq]
    exact eachScanned_sublist fun t _ found _ => redundantImportsOf_sublist List.filter_sublist
  · rw [unused_exempting hb, unused_eq]
    exact eachScanned_sublist fun t _ found _ => unusedOf_sublist List.filter_sublist

/-- A module that was missing becomes one of the system, and a dependency that is imported becomes
ignored: the one is no longer missing, and the other is unused in its first declaration. -/
theorem findings_exempting_owner :
    let imported (line : Nat) (m : String) : SourceImport := ⟨⟨"f.swift"⟩, line, "import " ++ m, m⟩
    let target : Target :=
      { name := "T", kind := .regular,
        dependencies := [.product "UI" "ui", .sibling "Data", .sibling "UI"] }
    let found := [imported 1 "UI", imported 2 "Net", imported 3 "Core", imported 4 "Text"]
    let a : Audit :=
      ⟨⟨"P", [target]⟩, ⟨[⟨"T", .regular, found⟩]⟩,
        { systemModules := ["Foundation"], reexports := [⟨"UI", ["Core"]⟩] }⟩
    let b := a.exempting ["Net", "Foundation"] [⟨"UI", none⟩]
    (∀ m, a.policy.Exempts m → b.policy.Exempts m) ∧
      a.missing = [.missing "T" (imported 2 "Net"), .missing "T" (imported 4 "Text")] ∧
      b.missing = [.missing "T" (imported 4 "Text")] ∧
      b.redundantImports.Sublist a.redundantImports ∧
      a.unused = [.unused "T" (.sibling "Data")] ∧
      b.unused.Perm [.unused "T" (.sibling "Data"), .unused "T" (.product "UI" "ui")] := by
  intro imported target found a b
  have hmore : ∀ m, a.policy.Exempts m → b.policy.Exempts m := by
    rintro m (hm | hm)
    · rw [List.mem_singleton.1 hm]
      decide
    · exact (List.not_mem_nil hm).elim
  obtain ⟨hmissing, hredundant, _, _, hunused⟩ :=
    findings_exempting a ["Net", "Foundation"] [⟨"UI", none⟩] hmore
  refine ⟨hmore, by decide, ?_, hredundant, by decide, ?_⟩
  · rw [hmissing]
    decide
  · refine hunused.trans (List.Perm.of_eq ?_)
    decide

end Audit

end DependencyAudit
