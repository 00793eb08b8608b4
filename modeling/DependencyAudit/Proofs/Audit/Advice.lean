import DependencyAudit.Proofs.Audit.Checks

/-!
Following advice. A finding advises a change of the targets that it names: a missing module becomes
a dependency, an unused or redundant one goes. What a check then finds is told by the checked
targets as they were before.
-/
namespace DependencyAudit

variable {t : Target} {advice : List Finding} {m : String}

namespace Target

/-- The target after the advice of one finding. -/
def follow (t : Target) (f : Finding) : Target :=
  if f.target = t.name then
    match f with
    | .missing _ found => { t with dependencies := t.dependencies ++ [.sibling found.moduleName] }
    | .unused _ d | .redundantDependency _ d =>
      { t with dependencies := t.dependencies.filter (·.name != d.name) }
    | .redundantImport _ _ => t
  else t

/-- The target after the advice of all findings. -/
def followAll (t : Target) (advice : List Finding) : Target := advice.foldl follow t

@[simp] theorem name_follow (t : Target) (f : Finding) : (t.follow f).name = t.name := by
  unfold follow
  split
  · cases f <;> rfl
  · rfl

@[simp] theorem name_followAll (t : Target) (advice : List Finding) :
    (t.followAll advice).name = t.name := by
  induction advice generalizing t with
  | nil => rfl
  | cons f advice ih => exact (ih (t.follow f)).trans (t.name_follow f)

/-- Some finding names the module for the target. -/
def advised (t : Target) (advice : List Finding) (m : String) : Bool :=
  advice.any fun f => f.target == t.name && f.moduleName == m

theorem advised_iff : t.advised advice m = true ↔
    ∃ f ∈ advice, f.target = t.name ∧ f.moduleName = m := by
  simp [advised]

theorem dependsOn_iff : t.dependsOn m = true ↔ ∃ d ∈ t.dependencies, d.name = m := by
  simp [dependsOn]

/-- Advice on missing modules only adds dependencies, in the order of the advice. -/
theorem dependencies_of_missing (h : ∀ f ∈ advice, f.kind = .missing) (t : Target) :
    (t.followAll advice).dependencies =
      t.dependencies ++
        (advice.filter (·.target == t.name)).map fun f => .sibling f.moduleName := by
  induction advice generalizing t with
  | nil => simp [followAll]
  | cons f advice ih =>
    have hf := ih (fun g hg => h g (List.mem_cons_of_mem f hg)) (t.follow f)
    rw [name_follow] at hf
    cases f with
    | missing target found =>
      by_cases ht : target = t.name
      · simpa [followAll, follow, ht, Finding.target, Finding.moduleName] using hf
      · simpa [followAll, follow, ht, Finding.target] using hf
    | unused | redundantImport | redundantDependency =>
      have hk := h _ List.mem_cons_self
      simp [Finding.kind] at hk

theorem dependencies_follow_needless {f : Finding}
    (h : f.kind = .unused ∨ f.kind = .redundantDependency) (t : Target) :
    (t.follow f).dependencies = t.dependencies.filter fun d => !t.advised [f] d.name := by
  cases f with
  | unused target d | redundantDependency target d =>
    by_cases ht : target = t.name
    · have hp : ∀ e : Dependency, (e.name != d.name) = !(d.name == e.name) := by
        intro e
        rw [bne, Bool.beq_comm]
      simp [follow, advised, ht, Finding.target, Finding.moduleName, hp]
    · symm
      simp [follow, advised, ht, Finding.target]
  | missing | redundantImport => simp [Finding.kind] at h

/-- Advice on dependencies that are not needed only drops those that it names. -/
theorem dependencies_of_needless
    (h : ∀ f ∈ advice, f.kind = .unused ∨ f.kind = .redundantDependency) (t : Target) :
    (t.followAll advice).dependencies =
      t.dependencies.filter fun d => !t.advised advice d.name := by
  induction advice generalizing t with
  | nil =>
    symm
    simp [followAll, advised]
  | cons f advice ih =>
    have hf := dependencies_follow_needless (h f List.mem_cons_self) t
    have hrest := ih (fun g hg => h g (List.mem_cons_of_mem f hg)) (t.follow f)
    rw [hf, List.filter_filter] at hrest
    refine hrest.trans (List.filter_congr ?_)
    intro d _
    simp [advised, Bool.and_comm]

theorem dependsOn_of_missing (h : ∀ f ∈ advice, f.kind = .missing) (t : Target) (m : String) :
    (t.followAll advice).dependsOn m = (t.dependsOn m || t.advised advice m) := by
  rw [dependsOn, dependencies_of_missing h, List.any_append]
  simp [dependsOn, advised, List.any_filter, Function.comp_def, Dependency.name]

theorem dependsOn_of_needless
    (h : ∀ f ∈ advice, f.kind = .unused ∨ f.kind = .redundantDependency) (t : Target) (m : String) :
    (t.followAll advice).dependsOn m = (t.dependsOn m && !t.advised advice m) := by
  rw [dependsOn, dependencies_of_needless h, List.any_filter, dependsOn, Bool.eq_iff_iff]
  simp only [List.any_eq_true, Bool.and_eq_true, beq_iff_eq]
  constructor
  · rintro ⟨d, hd, ha, rfl⟩
    exact ⟨⟨d, hd, rfl⟩, ha⟩
  · rintro ⟨⟨d, hd, rfl⟩, ha⟩
    exact ⟨d, hd, ha, rfl⟩

end Target

namespace Audit

variable {a : Audit} {u : Target} {found : List SourceImport} {f : Finding}
  {g : Target → List SourceImport → List Finding}

/-- The audit of the package whose targets have followed the advice. -/
def follow (a : Audit) (advice : List Finding) : Audit :=
  { a with
    package := { a.package with targets := a.package.targets.map (·.followAll advice) } }

theorem targets_follow (a : Audit) (advice : List Finding) :
    (a.follow advice).targets = a.targets.map (·.followAll advice) := by
  simp [targets, follow, Policy.targets, List.filter_map, Function.comp_def]

theorem imports?_follow (a : Audit) (advice : List Finding) (t : Target) :
    (a.follow advice).imports? (t.followAll advice) = a.imports? t := by
  simp [imports?, follow]

/-- After the advice a check finds at each target what it finds at the target that followed it. -/
theorem eachScanned_follow (a : Audit) (advice : List Finding) :
    (a.follow advice).eachScanned g = a.eachScanned fun t => g (t.followAll advice) := by
  rw [eachScanned, eachScanned, targets_follow, List.flatMap_map]
  refine List.flatMap_congr fun t _ => ?_
  rw [findingsAt, findingsAt, imports?_follow]

theorem advised_of_mem (ht : t ∈ a.targets) (hf : a.imports? t = some found) (h : f ∈ g t found)
    (htarget : f.target = t.name) : t.advised (a.eachScanned g) f.moduleName = true :=
  Target.advised_iff.2 ⟨f, mem_eachScanned.2 ⟨t, ht, found, hf, h⟩, htarget, rfl⟩

/-- The advice comes from a target of the same name, and so from the same imports. -/
theorem exists_of_advised (hg : ∀ u others f, f ∈ g u others → f.target = u.name)
    (hf : a.imports? t = some found) (h : t.advised (a.eachScanned g) m = true) :
    ∃ u, u.name = t.name ∧ ∃ f ∈ g u found, f.moduleName = m := by
  obtain ⟨f, hmem, hname, hm⟩ := Target.advised_iff.1 h
  obtain ⟨u, _, others, hu, hmem⟩ := mem_eachScanned.1 hmem
  rw [hg u others f hmem] at hname
  obtain rfl := found_eq_of_name hname hu hf
  exact ⟨u, hname, f, hmem, hm⟩

/-- Only what the targets depend on after the advice matters to what is missing then. -/
theorem missing_follow {dependsOn : Target → List SourceImport → String → Bool}
    (h : ∀ t ∈ a.targets, ∀ found, a.imports? t = some found →
      ∀ m, (t.followAll advice).dependsOn m = dependsOn t found m) :
    (a.follow advice).missing = a.missingWith dependsOn := by
  rw [missing_eq, eachScanned_follow]
  refine eachScanned_congr fun t ht found hf => ?_
  rw [missingOf_eq, Target.name_followAll, funext (h t ht found hf)]
  rfl

end Audit

end DependencyAudit
