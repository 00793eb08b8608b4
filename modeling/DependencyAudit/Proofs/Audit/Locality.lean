import DependencyAudit.Proofs.Audit.Scope

/-!
Locality. What is found about a target depends on the target, on its entry in the scan and on the
policy only. With distinct names the findings about one target are therefore those of a package
that holds nothing else.
-/
namespace DependencyAudit.Audit

variable {a b : Audit} {p : Policy} {t u : Target} {ts : List Target} {f : Finding}
  {found : List SourceImport} {name : String} {g : Target → List Finding}
  {check : Target → List SourceImport → List Finding}

/-- A check that names in its findings the target it was made at. -/
def Owned (g : Target → List Finding) : Prop := ∀ t, ∀ f ∈ g t, f.target = t.name

theorem target_of_mem_redundantImportsOf (h : f ∈ redundantImportsOf p t found) :
    f.target = t.name := by
  obtain ⟨inFile, _, hf⟩ := List.mem_flatMap.1 h
  obtain ⟨i, _, rfl⟩ := List.mem_map.1 hf
  rfl

theorem owned_redundantDependenciesOf (p : Policy) : Owned (redundantDependenciesOf p) := by
  intro t f hf
  obtain ⟨d, _, rfl⟩ := List.mem_map.1 hf
  rfl

theorem owned_findingsAt (h : ∀ t found, ∀ f ∈ check t found, f.target = t.name) (a : Audit) :
    Owned (a.findingsAt check) := by
  intro t f hf
  rw [findingsAt] at hf
  cases hi : a.imports? t with
  | none => simp [hi] at hf
  | some found => exact h t found f (by simpa [hi] using hf)

theorem owned_missing (a : Audit) : Owned (a.findingsAt (missingOf a.policy)) :=
  owned_findingsAt (fun _ _ _ => target_of_mem_missingOf) a

theorem owned_unused (a : Audit) : Owned (a.findingsAt unusedOf) :=
  owned_findingsAt (fun _ _ _ => target_of_mem_unusedOf) a

theorem owned_redundantImports (a : Audit) : Owned (a.findingsAt (redundantImportsOf a.policy)) :=
  owned_findingsAt (fun _ _ _ => target_of_mem_redundantImportsOf) a

theorem filter_eq_self (hg : Owned g) (h : t.name = name) :
    (g t).filter (·.target == name) = g t := by
  refine List.filter_eq_self.2 fun f hf => ?_
  rw [hg t f hf, h, beq_self_eq_true]

theorem filter_eq_nil (hg : Owned g) (h : t.name ≠ name) :
    (g t).filter (·.target == name) = [] := by
  refine List.filter_eq_nil_iff.2 fun f hf => ?_
  rw [hg t f hf, beq_iff_eq]
  exact h

theorem filter_flatMap_of_notMem (hg : Owned g) (h : name ∉ ts.map (·.name)) :
    (ts.flatMap g).filter (·.target == name) = [] := by
  induction ts with
  | nil => rfl
  | cons u ts ih =>
    rw [List.map_cons, List.mem_cons, not_or] at h
    rw [List.flatMap_cons, List.filter_append, filter_eq_nil hg (Ne.symm h.1), ih h.2]
    rfl

/-- Among targets of distinct names, what is found about one is what is found at it. -/
theorem filter_flatMap_of_mem (hg : Owned g) (hn : (ts.map (·.name)).Nodup) (ht : t ∈ ts) :
    (ts.flatMap g).filter (·.target == t.name) = g t := by
  induction ts with
  | nil => exact (List.not_mem_nil ht).elim
  | cons u ts ih =>
    rw [List.map_cons, List.nodup_cons] at hn
    obtain ⟨hu, hn⟩ := hn
    rw [List.flatMap_cons, List.filter_append]
    obtain rfl | ht := List.mem_cons.1 ht
    · rw [filter_eq_self hg rfl, filter_flatMap_of_notMem hg hu, List.append_nil]
    · have hne : u.name ≠ t.name := by
        intro he
        exact hu (he ▸ List.mem_map_of_mem ht)
      rw [filter_eq_nil hg hne, ih hn ht, List.nil_append]

/-- The audit of a package that holds the target alone. -/
def alone (a : Audit) (t : Target) : Audit :=
  { a with package := { a.package with targets := [t] } }

theorem mem_targets : t ∈ a.targets ↔
    t ∈ a.package.targets ∧ a.policy.ignoresTarget t.name = false := by
  simp [targets, Policy.targets]

theorem nodup_targets (h : (a.package.targets.map (·.name)).Nodup) :
    (a.targets.map (·.name)).Nodup :=
  h.sublist (List.filter_sublist.map _)

/-- A check finds about the target what it finds where the target is alone. -/
theorem filter_targets (hg : Owned g) (hn : (a.package.targets.map (·.name)).Nodup)
    (ht : t ∈ a.package.targets) :
    (a.targets.flatMap g).filter (·.target == t.name) = (a.alone t).targets.flatMap g := by
  cases hi : a.policy.ignoresTarget t.name with
  | true =>
    have hnot : t.name ∉ a.targets.map (·.name) := by
      intro hmem
      obtain ⟨u, hu, hname⟩ := List.mem_map.1 hmem
      have hkept := (mem_targets.1 hu).2
      rw [hname, hi] at hkept
      cases hkept
    rw [filter_flatMap_of_notMem hg hnot]
    simp [alone, targets, Policy.targets, hi]
  | false =>
    rw [filter_flatMap_of_mem hg (nodup_targets hn) (mem_targets.2 ⟨ht, hi⟩)]
    simp [alone, targets, Policy.targets, hi]

theorem filter_findings (hn : (a.package.targets.map (·.name)).Nodup)
    (ht : t ∈ a.package.targets) :
    a.findings.filter (·.target == t.name) = (a.alone t).findings := by
  rw [findings, List.filter_append, List.filter_append, List.filter_append, missing_eq, unused_eq,
    redundantImports_eq, eachScanned, eachScanned, eachScanned, redundantDependencies,
    filter_targets (owned_missing a) hn ht, filter_targets (owned_unused a) hn ht,
    filter_targets (owned_redundantImports a) hn ht,
    filter_targets (owned_redundantDependenciesOf a.policy) hn ht]
  rfl

theorem agree_alone (hp : a.policy = b.policy)
    (hs : a.scan.target? t.name = b.scan.target? t.name) : (a.alone t).Agree (b.alone t) where
  targets := by simp [targets, Policy.targets, alone, hp]
  imports := by
    intro u hu
    have hut : u = t := by
      have hmem := (mem_targets.1 hu).1
      simpa [alone] using hmem
    subst hut
    simp [imports?, alone, hp, hs]
  reexports := by simp [alone, hp]

theorem target_of_mem_flatMap (hg : Owned g) (h : f ∈ a.targets.flatMap g) :
    ∃ u ∈ a.package.targets, u.name = f.target ∧ a.policy.ignoresTarget u.name = false := by
  obtain ⟨u, hu, hf⟩ := List.mem_flatMap.1 h
  obtain ⟨hmem, hkept⟩ := mem_targets.1 hu
  exact ⟨u, hmem, (hg u f hf).symm, hkept⟩

/-- Every finding is about a target of the package that the policy does not ignore. -/
theorem target_of_mem_findings (h : f ∈ a.findings) :
    ∃ u ∈ a.package.targets, u.name = f.target ∧ a.policy.ignoresTarget u.name = false := by
  rw [findings, List.mem_append, List.mem_append, List.mem_append] at h
  obtain ((h | h) | h) | h := h
  · exact target_of_mem_flatMap (owned_missing a) h
  · exact target_of_mem_flatMap (owned_unused a) h
  · exact target_of_mem_flatMap (owned_redundantImports a) h
  · exact target_of_mem_flatMap (owned_redundantDependenciesOf a.policy) h

/-- In packages of distinct target names, two audits under one policy that have a target and its
entry in common find the same about it, in the same order, and so does the audit of that target
alone. No finding is about anything but a target of the package that is not ignored. -/
theorem findings_local (hp : a.policy = b.policy)
    (ha : (a.package.targets.map (·.name)).Nodup) (hb : (b.package.targets.map (·.name)).Nodup)
    (hta : t ∈ a.package.targets) (htb : t ∈ b.package.targets)
    (hs : a.scan.target? t.name = b.scan.target? t.name) :
    a.findings.filter (·.target == t.name) = b.findings.filter (·.target == t.name) ∧
    a.findings.filter (·.target == t.name) = (a.alone t).findings ∧
    b.findings.filter (·.target == t.name) = (b.alone t).findings ∧
    ∀ c : Audit, ∀ f ∈ c.findings,
      ∃ u ∈ c.package.targets, u.name = f.target ∧ c.policy.ignoresTarget u.name = false := by
  have halone : (a.alone t).findings = (b.alone t).findings := (agree_alone hp hs).findings
  have hfa := filter_findings ha hta
  have hfb := filter_findings hb htb
  exact ⟨by rw [hfa, hfb, halone], hfa, hfb, fun c f hf => target_of_mem_findings hf⟩

/-- The neighbours of a target, an ignored one among them, and their imports are exchanged. -/
theorem findings_local_neighbours :
    let policy : Policy :=
      { reexports := [⟨"Owner", ["B"]⟩], ignoredTargets := [⟨"Demo", none⟩] }
    let target : Target :=
      { name := "T", kind := .regular, dependencies := [.sibling "B", .product "X" "x"] }
    let entry : TargetImports :=
      ⟨"T", .regular,
        [⟨⟨"f.swift"⟩, 1, "import Owner", "Owner"⟩, ⟨⟨"f.swift"⟩, 2, "import B", "B"⟩]⟩
    let a : Audit :=
      ⟨⟨"P", [{ name := "U", kind := .regular, dependencies := [.sibling "T"] }, target]⟩,
        ⟨[⟨"U", .regular, [⟨⟨"f.swift"⟩, 1, "import B", "B"⟩]⟩, entry]⟩, policy⟩
    let b : Audit :=
      ⟨⟨"Q", [target, { name := "Demo", kind := .test, dependencies := [.sibling "B"] }]⟩,
        ⟨[entry, ⟨"Demo", .test, [⟨⟨"g.swift"⟩, 1, "import C", "C"⟩]⟩]⟩, policy⟩
    a.findings.filter (·.target == "T") = b.findings.filter (·.target == "T") ∧
    b.findings.filter (·.target == "T") =
      [.missing "T" ⟨⟨"f.swift"⟩, 1, "import Owner", "Owner"⟩, .unused "T" (.product "X" "x"),
        .redundantImport "T" ⟨⟨"f.swift"⟩, 2, "import B", "B"⟩,
        .redundantDependency "T" (.sibling "B")] ∧
    a.findings ≠ b.findings := by
  intro policy target entry a b
  obtain ⟨hab, _, _, _⟩ := findings_local (a := a) (b := b) (t := target) rfl (by decide)
    (by decide) (by decide) (by decide) (by decide)
  have htargets : b.targets = [target] := by decide +kernel
  have himports : b.imports? target = some entry.imports := by decide +kernel
  have hfile : byFile entry.imports = [entry.imports] := by
    rw [byFile, List.mergeSort_of_pairwise (by decide +kernel)]
    decide +kernel
  have hredundant : b.redundantImports =
      [.redundantImport "T" ⟨⟨"f.swift"⟩, 2, "import B", "B"⟩] := by
    rw [redundantImports, htargets, List.flatMap_singleton, himports]
    change redundantImportsOf policy target entry.imports = _
    rw [redundantImportsOf, hfile]
    decide +kernel
  refine ⟨hab, ?_, by decide +kernel⟩
  rw [findings, hredundant]
  decide +kernel

end DependencyAudit.Audit
