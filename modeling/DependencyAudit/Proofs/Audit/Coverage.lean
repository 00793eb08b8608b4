import DependencyAudit.Proofs.Audit.Checks

/-!
What is missing, import by import. An import is reported just if its module is not exempt, its target
does not depend on it, and the first declaration that passes it on, if there is one, has an owner
that the target does not depend on.
-/
namespace DependencyAudit

variable {p : Policy} {r : Reexport} {t : Target} {m : String}

theorem Reexport.passesOn_iff : r.passesOn m = true ↔ m ∈ r.modules := by
  simp [passesOn]

namespace Policy

theorem exporter?_eq_none_iff : p.exporter? m = none ↔ ∀ r ∈ p.reexports, m ∉ r.modules := by
  simp only [exporter?, List.find?_eq_none, Reexport.passesOn_iff]

/-- The exporter is the first declaration of all that pass the module on. -/
theorem exporter?_eq_some_iff : p.exporter? m = some r ↔ ∃ before after,
    p.reexports = before ++ r :: after ∧ (∀ s ∈ before, m ∉ s.modules) ∧ m ∈ r.modules := by
  rw [exporter?, List.find?_eq_some_iff_append]
  constructor
  · rintro ⟨hpass, before, after, heq, hbefore⟩
    refine ⟨before, after, heq, ?_, Reexport.passesOn_iff.1 hpass⟩
    intro s hs hm
    have hnot := hbefore s hs
    simp [Reexport.passesOn_iff.2 hm] at hnot
  · rintro ⟨before, after, heq, hbefore, hm⟩
    refine ⟨Reexport.passesOn_iff.2 hm, before, after, heq, ?_⟩
    intro s hs
    rw [Bool.not_eq_true', Bool.eq_false_iff]
    exact fun hpass => hbefore s hs (Reexport.passesOn_iff.1 hpass)

theorem isNone_exemption?_iff : (p.exemption? m).isNone = true ↔ ¬ p.Exempts m := by
  rw [Audit.isNone_exemption?]
  simp [Exempts, isSystem, isIgnored]

end Policy

namespace Audit

variable {a : Audit} {entry : TargetImports} {found : List SourceImport}

/-- The module is not exempt, and no dependency of the target brings it. -/
structure Lacks (p : Policy) (t : Target) (m : String) : Prop where
  examined : ¬ p.Exempts m
  direct : m ∉ t.dependencies.map (·.name)
  passedOn : (∀ r ∈ p.reexports, m ∉ r.modules) ∨
    ∃ before r after, p.reexports = before ++ r :: after ∧ (∀ s ∈ before, m ∉ s.modules) ∧
      m ∈ r.modules ∧ r.owner ∉ t.dependencies.map (·.name)

theorem dependsOn_eq_false_iff : t.dependsOn m = false ↔ m ∉ t.dependencies.map (·.name) := by
  simp [Target.dependsOn]

/-- Nothing covers an import if there is no exporter of its module or only one whose owner its target
does not depend on. -/
theorem uncovered_iff : coverage p t m = .uncovered ↔
    t.dependsOn m = false ∧
      (p.exporter? m = none ∨ ∃ r, p.exporter? m = some r ∧ t.dependsOn r.owner = false) := by
  rw [coverage_eq_uncovered_iff, covers, Bool.or_eq_false_iff]
  cases p.exporter? m with
  | none => simp
  | some r => simp

theorem lacks_iff :
    Lacks p t m ↔ (p.exemption? m).isNone = true ∧ coverage p t m = .uncovered := by
  rw [Policy.isNone_exemption?_iff, uncovered_iff, dependsOn_eq_false_iff,
    Policy.exporter?_eq_none_iff]
  simp only [Policy.exporter?_eq_some_iff, dependsOn_eq_false_iff]
  constructor
  · rintro ⟨hexempt, hdirect, hnone | ⟨before, r, after, heq, hbefore, hm, howner⟩⟩
    · exact ⟨hexempt, hdirect, Or.inl hnone⟩
    · exact ⟨hexempt, hdirect, Or.inr ⟨r, ⟨before, after, heq, hbefore, hm⟩, howner⟩⟩
  · rintro ⟨hexempt, hdirect, hnone | ⟨r, ⟨before, after, heq, hbefore, hm⟩, howner⟩⟩
    · exact ⟨hexempt, hdirect, Or.inl hnone⟩
    · exact ⟨hexempt, hdirect, Or.inr ⟨before, r, after, heq, hbefore, hm, howner⟩⟩

instance (p : Policy) (t : Target) (m : String) : Decidable (Lacks p t m) :=
  decidable_of_iff _ lacks_iff.symm

/-- Leaving out what is exempt and what is covered leaves what the target lacks. -/
theorem missingOf_imports (p : Policy) (t : Target) (found : List SourceImport) :
    missingOf p t (found.filter fun i => ¬ p.Exempts i.moduleName) =
      (found.filter fun i => Lacks p t i.moduleName).map (.missing t.name) := by
  rw [missingOf, List.filter_filter]
  refine congrArg _ (List.filter_congr fun i _ => ?_)
  rw [Bool.eq_iff_iff]
  simp only [Bool.and_eq_true, decide_eq_true_eq]
  rw [lacks_iff, Policy.isNone_exemption?_iff, and_comm]

/-- Target by target and import by import, an import is reported once for each of its occurrences
just if its target lacks the module. -/
theorem missing_lacks (a : Audit) :
    a.missing = a.scanned.flatMap fun (t, entry) =>
      (entry.imports.filter fun i => Lacks a.policy t i.moduleName).map (.missing t.name) := by
  rw [missing_eq, eachScanned_eq, examined_eq_scanned, List.flatMap_map]
  exact List.flatMap_congr fun x _ => missingOf_imports a.policy x.1 x.2.imports

end Audit

end DependencyAudit
