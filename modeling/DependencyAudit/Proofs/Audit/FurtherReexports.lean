import DependencyAudit.Proofs.Audit.Exemptions
import DependencyAudit.Proofs.Audit.Reexports

/-!
Further re-exports behind those that are declared. Whatever passed a module on first still does, so
that no import loses what covered it; each file still has the redundant imports that it had, and
perhaps others behind them.
-/
namespace DependencyAudit

variable {p q : Policy} {extra : List Reexport} {t : Target} {found g : List SourceImport}
  {c : String → Bool} {m : String}

theorem Policy.exporter?_of_append (h : q.reexports = p.reexports ++ extra) (m : String) :
    q.exporter? m = (p.exporter? m).or (extra.find? (·.passesOn m)) := by
  rw [exporter?, exporter?, h, List.find?_append]

namespace Audit

variable {a : Audit}

/-- What is passed on already is passed on by the same declaration. -/
theorem covers_of_append_of_listed (h : q.reexports = p.reexports ++ extra)
    (hm : ∃ r ∈ p.reexports, m ∈ r.modules) : covers q c m = covers p c m := by
  cases hr : p.exporter? m with
  | none =>
    obtain ⟨r, hr', hm⟩ := hm
    exact absurd hm (Policy.exporter?_eq_none_iff.1 hr r hr')
  | some r => rw [covers, covers, Policy.exporter?_of_append h, hr, Option.some_or]

theorem covers_of_append (h : q.reexports = p.reexports ++ extra) (hc : covers p c m = true) :
    covers q c m = true := by
  by_cases hm : ∃ r ∈ p.reexports, m ∈ r.modules
  · rwa [covers_of_append_of_listed h hm]
  · have hnone : p.exporter? m = none :=
      Policy.exporter?_eq_none_iff.2 fun r hr hmr => hm ⟨r, hr, hmr⟩
    rw [covers, hnone, Option.any_none, Bool.or_false] at hc
    rw [covers, hc, Bool.true_or]

theorem missingOf_sublist_of_append (h : q.reexports = p.reexports ++ extra) :
    (missingOf q t found).Sublist (missingOf p t found) := by
  rw [missingOf_eq, missingOf_eq]
  apply List.Sublist.map
  apply List.monotone_filter_right
  intro i hi
  rw [Bool.not_eq_true', Bool.eq_false_iff] at hi ⊢
  exact fun hc => hi (covers_of_append h hc)

theorem missingOf_filter_of_append (h : q.reexports = p.reexports ++ extra) :
    (missingOf q t found).filter (fun f => ∃ r ∈ p.reexports, f.moduleName ∈ r.modules) =
      (missingOf p t found).filter fun f => ∃ r ∈ p.reexports, f.moduleName ∈ r.modules := by
  rw [missingOf_eq, missingOf_eq, List.filter_map, List.filter_map, uncovered, uncovered,
    List.filter_filter, List.filter_filter]
  refine congrArg _ (List.filter_congr fun i _ => ?_)
  by_cases hm : ∃ r ∈ p.reexports, i.moduleName ∈ r.modules
  · rw [covers_of_append_of_listed h hm]
  · simp [Finding.moduleName, hm]

/-- The new declarations come after the old ones in every file. -/
theorem redundantIn_of_append (h : q.reexports = p.reexports ++ extra) (t : Target)
    (g : List SourceImport) :
    redundantIn q t g =
      redundantIn p t g ++ (extra.flatMap fun r => passedOn r g).map (.redundantImport t.name) := by
  rw [redundantIn, redundantIn, h, List.flatMap_append, List.map_append]

theorem redundantImportsOf_sublist_of_append (h : q.reexports = p.reexports ++ extra) :
    (redundantImportsOf p t found).Sublist (redundantImportsOf q t found) := by
  refine List.Sublist.flatMap_right _ fun g _ => ?_
  rw [redundantIn_of_append h]
  exact List.sublist_append_left _ _

theorem redundantDependenciesOf_sublist_of_append (h : q.reexports = p.reexports ++ extra) :
    (redundantDependenciesOf p t).Sublist (redundantDependenciesOf q t) := by
  apply List.Sublist.map
  apply List.monotone_filter_right
  intro d hd
  rw [isRedundant] at hd ⊢
  rw [h, List.any_append, hd, Bool.true_or]

/-- Further re-exports behind the declared ones can only take away from what is missing and add to
what is redundant, and have no say in what is unused. Of the modules that were passed on before, the
same imports are missing. -/
theorem findings_further_reexports (a : Audit) (extra : List Reexport) :
    let b := a.withReexports (a.policy.reexports ++ extra)
    b.missing.Sublist a.missing ∧
    a.redundantImports.Sublist b.redundantImports ∧
    a.redundantDependencies.Sublist b.redundantDependencies ∧
    b.unused = a.unused ∧
    b.missing.filter (fun f => ∃ r ∈ a.policy.reexports, f.moduleName ∈ r.modules) =
      a.missing.filter fun f => ∃ r ∈ a.policy.reexports, f.moduleName ∈ r.modules := by
  intro b
  have hb : b.policy.reexports = a.policy.reexports ++ extra := rfl
  have hscanned : ∀ check, b.eachScanned check = a.eachScanned check :=
    eachScanned_withReexports a _
  refine ⟨?_, ?_, ?_, hscanned unusedOf, ?_⟩
  · rw [missing_eq, missing_eq, hscanned]
    exact eachScanned_sublist fun t _ found _ => missingOf_sublist_of_append hb
  · rw [redundantImports_eq, redundantImports_eq, hscanned]
    exact eachScanned_sublist fun t _ found _ => redundantImportsOf_sublist_of_append hb
  · exact List.Sublist.flatMap_right _ fun t _ => redundantDependenciesOf_sublist_of_append hb
  · rw [missing_eq, missing_eq, hscanned, filter_eachScanned, filter_eachScanned]
    exact eachScanned_congr fun t _ found _ => missingOf_filter_of_append hb

/-- In front of the declared ones a re-export can uncover an import: its owner comes first. -/
example :
    let imported : SourceImport := ⟨⟨"f.swift"⟩, 1, "import Core", "Core"⟩
    let a : Audit :=
      ⟨⟨"P", [{ name := "T", kind := .regular, dependencies := [.sibling "UI"] }]⟩,
        ⟨[⟨"T", .regular, [imported]⟩]⟩, { reexports := [⟨"UI", ["Core"]⟩] }⟩
    a.missing = [] ∧
      (a.withReexports (⟨"Net", ["Core"]⟩ :: a.policy.reexports)).missing =
        [.missing "T" imported] := by
  decide

end Audit

end DependencyAudit
