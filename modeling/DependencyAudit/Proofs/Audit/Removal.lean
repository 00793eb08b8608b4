import DependencyAudit.Proofs.Audit.Advice

/-!
Missing dependencies after needless ones were dropped. An import stays covered only by dependencies
that stay, so that dropping what is unused or redundant can uncover imports; which ones is said
exactly, and when there are none.
-/
namespace DependencyAudit.Audit

variable {a : Audit} {p : Policy} {t : Target} {found : List SourceImport} {m : String}
  {advice : List Finding}

/-! Dropping what is unused -/

theorem not_advised_unused (hf : a.imports? t = some found) (hm : imports found m = true) :
    t.advised a.unused m = false := by
  rw [Bool.eq_false_iff]
  intro h
  rw [unused_eq] at h
  obtain ⟨u, _, f, hmem, rfl⟩ := exists_of_advised (fun _ _ _ => target_of_mem_unusedOf) hf h
  obtain ⟨e, he, rfl⟩ := List.mem_map.1 hmem
  obtain ⟨_, hnot⟩ := List.mem_filter.1 (Dependency.mem_of_mem_distinct he)
  rw [Finding.moduleName] at hm
  simp [hm] at hnot

theorem advised_unused (ht : t ∈ a.targets) (hf : a.imports? t = some found)
    (hd : t.dependsOn m = true) (hm : imports found m = false) : t.advised a.unused m = true := by
  obtain ⟨e, he, rfl⟩ := Target.dependsOn_iff.1 hd
  have hmem : e ∈ t.dependencies.filter fun d => !imports found d.name :=
    List.mem_filter.2 ⟨he, by simp [hm]⟩
  -- the dependency reported is the first one of the name, perhaps another one than this
  obtain ⟨c, hc, hn⟩ := Dependency.exists_mem_distinct hmem
  have hunused : .unused t.name c ∈ unusedOf t found := List.mem_map_of_mem hc
  rw [← hn]
  exact advised_of_mem ht hf hunused rfl

/-- Of the dependencies of a scanned target those stay that it imports. -/
theorem dependsOn_follow_unused (ht : t ∈ a.targets) (hf : a.imports? t = some found)
    (m : String) :
    (t.followAll a.unused).dependsOn m = (t.dependsOn m && imports found m) := by
  rw [Target.dependsOn_of_needless fun f hf => Or.inl (kind_of_mem_unused hf)]
  cases hd : t.dependsOn m with
  | false => rfl
  | true =>
    cases hm : imports found m with
    | true => simp [not_advised_unused hf hm]
    | false => simp [advised_unused ht hf hd hm]

/-- What is missing after dependencies were dropped: never less than before, and no more just if
every import that was covered is covered by the dependencies that stay. -/
theorem missing_of_kept (kept : Target → List SourceImport → String → Bool)
    (h : ∀ t ∈ a.targets, ∀ found, a.imports? t = some found → ∀ m,
      (t.followAll advice).dependsOn m = (t.dependsOn m && kept t found m)) :
    (a.follow advice).missing = a.missingWith (fun t found m => t.dependsOn m && kept t found m) ∧
    a.missing.Sublist (a.follow advice).missing ∧
    ((a.follow advice).missing = a.missing ↔
      ∀ t ∈ a.targets, ∀ found, a.imports? t = some found → ∀ i ∈ found,
        coverage a.policy t i.moduleName ≠ .uncovered →
          covers a.policy (fun m => t.dependsOn m && kept t found m) i.moduleName = true) := by
  have hless : ∀ (t : Target) found m, (t.dependsOn m && kept t found m) = true →
      t.dependsOn m = true := by
    intro t found m hm
    exact (Bool.and_eq_true_iff.1 hm).1
  simp only [← covers_iff]
  rw [missing_follow h, missing_eq_missingWith]
  exact ⟨rfl, missingWith_sublist hless, missingWith_eq_iff hless⟩

/-- Whether an import is still covered when its target has dropped what it does not import. -/
def outlastsUnused (p : Policy) (t : Target) (found : List SourceImport) (m : String) : Bool :=
  match coverage p t m with
  | .direct => true
  | .via owner => imports found owner
  | .uncovered => false

theorem covers_imported {i : SourceImport} (hi : i ∈ found) :
    covers p (fun n => t.dependsOn n && imports found n) i.moduleName =
      outlastsUnused p t found i.moduleName := by
  have hm : imports found i.moduleName = true := imports_iff.2 ⟨i, hi, rfl⟩
  unfold outlastsUnused coverage covers
  by_cases hd : t.dependsOn i.moduleName = true
  · simp [hd, hm]
  · cases hr : p.exporter? i.moduleName with
    | none => simp [hd]
    | some r => by_cases ho : t.dependsOn r.owner = true <;> simp [hd, ho]

/-- Dropping what is unused leaves an import uncovered if nothing covered it before, or if it was
covered through an owner that its target does not import. -/
theorem missing_follow_unused (a : Audit) :
    (a.follow a.unused).missing = a.eachScanned (fun t found =>
      (found.filter fun i => !outlastsUnused a.policy t found i.moduleName).map
        (.missing t.name)) ∧
    a.missing.Sublist (a.follow a.unused).missing ∧
    ((a.follow a.unused).missing = a.missing ↔
      ∀ t ∈ a.targets, ∀ found, a.imports? t = some found → ∀ i ∈ found, ∀ owner,
        coverage a.policy t i.moduleName = .via owner → imports found owner = true) := by
  obtain ⟨heq, hsub, hiff⟩ := missing_of_kept (fun _ found m => imports found m)
    fun t ht found hf => dependsOn_follow_unused ht hf
  refine ⟨?_, hsub, hiff.trans ?_⟩
  · rw [heq]
    refine eachScanned_congr fun t _ found _ => congrArg _ (List.filter_congr fun i hi => ?_)
    rw [covers_imported hi]
  · refine forall₂_congr fun t _ => forall₂_congr fun found _ => forall₂_congr fun i hi => ?_
    rw [covers_imported hi, outlastsUnused]
    cases coverage a.policy t i.moduleName with
    | direct => simp
    | via owner => simp
    | uncovered => simp

/-- An owner that is not imported itself goes as unused, and what it covered is uncovered. -/
theorem missing_follow_unused_ne :
    let a : Audit :=
      { package := ⟨"P", [{ name := "T", kind := .regular, dependencies := [.sibling "A"] }]⟩,
        scan := ⟨[⟨"T", .regular, [⟨⟨"f.swift"⟩, 1, "import B", "B"⟩]⟩]⟩,
        policy := { reexports := [⟨"A", ["B"]⟩] } }
    (a.follow a.unused).missing ≠ a.missing := by
  decide

/-! Dropping what is redundant -/

/-- Whether an owner other than the target itself passes the module on. -/
def passedOnElsewhere (p : Policy) (t : Target) (m : String) : Bool :=
  p.reexports.any fun r => r.owner != t.name && r.passesOn m

theorem isRedundant_eq (p : Policy) (t : Target) (e : Dependency) :
    isRedundant p t e = passedOnElsewhere p t e.name := rfl

/-- Targets of one name have the same modules passed on to them. -/
theorem passedOnElsewhere_congr {u : Target} (h : u.name = t.name) :
    passedOnElsewhere p u m = passedOnElsewhere p t m := by
  rw [passedOnElsewhere, passedOnElsewhere, h]

theorem advised_redundant (ht : t ∈ a.targets) (hd : t.dependsOn m = true) :
    t.advised a.redundantDependencies m = passedOnElsewhere a.policy t m := by
  rw [Bool.eq_iff_iff, Target.advised_iff]
  constructor
  · rintro ⟨f, hmem, hname, rfl⟩
    obtain ⟨u, _, hmem⟩ := List.mem_flatMap.1 hmem
    obtain ⟨e, he, rfl⟩ := List.mem_map.1 hmem
    have hred := (List.mem_filter.1 he).2
    rwa [isRedundant_eq, passedOnElsewhere_congr hname] at hred
  · intro hm
    obtain ⟨e, he, rfl⟩ := Target.dependsOn_iff.1 hd
    have hmem : e ∈ t.dependencies.filter (isRedundant a.policy t) := List.mem_filter.2 ⟨he, hm⟩
    exact ⟨.redundantDependency t.name e,
      List.mem_flatMap.2 ⟨t, ht, List.mem_map_of_mem hmem⟩, rfl, rfl⟩

/-- Of the dependencies of a target those stay that no other owner passes on. -/
theorem dependsOn_follow_redundant (ht : t ∈ a.targets) (m : String) :
    (t.followAll a.redundantDependencies).dependsOn m =
      (t.dependsOn m && !passedOnElsewhere a.policy t m) := by
  rw [Target.dependsOn_of_needless fun f hf => Or.inr (kind_of_mem_redundantDependencies hf)]
  cases hd : t.dependsOn m with
  | false => rfl
  | true => rw [advised_redundant ht hd]

/-- The target depends on the module, and no other owner passes it on. -/
def keeps (p : Policy) (t : Target) (m : String) : Bool :=
  t.dependsOn m && !passedOnElsewhere p t m

/-- Dropping what is redundant leaves an import covered only by a dependency on its module, or on
the owner of the first declaration that passes it on, that no other owner passes on. -/
theorem missing_follow_redundant (a : Audit) :
    (a.follow a.redundantDependencies).missing = a.eachScanned (fun t found =>
      (found.filter fun i => !covers a.policy (keeps a.policy t) i.moduleName).map
        (.missing t.name)) ∧
    a.missing.Sublist (a.follow a.redundantDependencies).missing ∧
    ((a.follow a.redundantDependencies).missing = a.missing ↔
      ∀ t ∈ a.targets, ∀ found, a.imports? t = some found → ∀ i ∈ found,
        coverage a.policy t i.moduleName ≠ .uncovered →
          covers a.policy (keeps a.policy t) i.moduleName = true) :=
  missing_of_kept (fun t _ m => !passedOnElsewhere a.policy t m)
    fun _ ht _ _ => dependsOn_follow_redundant ht

/-- Nothing keeps the import covered if the target does not depend on the owner that passes the
module on, or if that owner is only the second one that does. -/
theorem missing_follow_redundant_ne :
    let target (dependencies : List Dependency) : Package :=
      ⟨"P", [{ name := "T", kind := .regular, dependencies := dependencies }]⟩
    let scan : PackageImports := ⟨[⟨"T", .regular, [⟨⟨"f.swift"⟩, 1, "import B", "B"⟩]⟩]⟩
    let noOwner : Audit := ⟨target [.sibling "B"], scan, { reexports := [⟨"A", ["B"]⟩] }⟩
    let secondOwner : Audit :=
      ⟨target [.sibling "S", .sibling "B"], scan,
        { reexports := [⟨"F", ["B"]⟩, ⟨"S", ["B"]⟩] }⟩
    (noOwner.follow noOwner.redundantDependencies).missing ≠ noOwner.missing ∧
      (secondOwner.follow secondOwner.redundantDependencies).missing ≠ secondOwner.missing := by
  decide

end DependencyAudit.Audit
