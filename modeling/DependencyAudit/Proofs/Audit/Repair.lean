import DependencyAudit.Proofs.Audit.Advice

/-!
Adding what is missing. One round of it covers every import, and as every module that it adds is
imported, no other dependency becomes unused.
-/
namespace DependencyAudit.Audit

variable {a : Audit} {t : Target} {found : List SourceImport} {i : SourceImport}
  {m : String}

theorem advised_missing_of_not_covers (ht : t ∈ a.targets) (hf : a.imports? t = some found)
    (hi : i ∈ found) (hc : covers a.policy t.dependsOn i.moduleName = false) :
    t.advised a.missing i.moduleName = true := by
  have hmem : .missing t.name i ∈ missingOf a.policy t found := by
    rw [missingOf_eq]
    exact List.mem_map_of_mem (mem_uncovered.2 ⟨hi, hc⟩)
  exact advised_of_mem ht hf hmem rfl

/-- Modules are missing only where they are imported, in all targets of the name. -/
theorem imports_of_advised_missing (hf : a.imports? t = some found)
    (h : t.advised a.missing m = true) : imports found m = true := by
  rw [missing_eq] at h
  obtain ⟨u, _, f, hmem, hm⟩ := exists_of_advised (fun _ _ _ => target_of_mem_missingOf) hf h
  obtain ⟨i, hi, rfl⟩ := List.mem_map.1 hmem
  exact imports_iff.2 ⟨i, (List.mem_filter.1 hi).1, hm⟩

theorem covers_of_advised_missing (ht : t ∈ a.targets) (hf : a.imports? t = some found)
    (hi : i ∈ found) :
    covers a.policy (fun m => t.dependsOn m || t.advised a.missing m) i.moduleName = true := by
  cases hc : covers a.policy t.dependsOn i.moduleName with
  | true => exact covers_mono (fun m hm => by simp [hm]) hc
  | false =>
    have had := advised_missing_of_not_covers ht hf hi hc
    simp [covers, had]

theorem unusedOf_follow_missing (hf : a.imports? t = some found) :
    unusedOf (t.followAll a.missing) found = unusedOf t found := by
  have hadded : ∀ g ∈ a.missing.filter (·.target == t.name), imports found g.moduleName = true := by
    intro g hg
    obtain ⟨hmem, hname⟩ := List.mem_filter.1 hg
    exact imports_of_advised_missing hf
      (Target.advised_iff.2 ⟨g, hmem, beq_iff_eq.1 hname, rfl⟩)
  have hfilter : (t.followAll a.missing).dependencies.filter (fun d => !imports found d.name) =
      t.dependencies.filter fun d => !imports found d.name := by
    rw [Target.dependencies_of_missing (fun f => kind_of_mem_missing), List.filter_append,
      List.append_right_eq_self, List.filter_eq_nil_iff]
    intro d hd
    obtain ⟨g, hg, rfl⟩ := List.mem_map.1 hd
    simp [Dependency.name, hadded g hg]
  rw [unusedOf, unusedOf, unusedDependencies, unusedDependencies, hfilter, Target.name_followAll]

/-- One round of adding what is missing leaves nothing missing and nothing more unused. -/
theorem follow_missing (a : Audit) :
    (a.follow a.missing).missing = [] ∧ (a.follow a.missing).unused = a.unused := by
  constructor
  · rw [missing_follow fun t _ _ _ m =>
      Target.dependsOn_of_missing (fun f => kind_of_mem_missing) t m]
    refine List.eq_nil_iff_forall_not_mem.2 fun f hmem => ?_
    obtain ⟨t, ht, found, hf, hmem⟩ := mem_eachScanned.1 hmem
    obtain ⟨i, hi, rfl⟩ := List.mem_map.1 hmem
    obtain ⟨hi, hc⟩ := mem_uncovered.1 hi
    rw [covers_of_advised_missing ht hf hi] at hc
    exact Bool.noConfusion hc
  · rw [unused_eq, unused_eq, eachScanned_follow]
    exact eachScanned_congr fun t _ found hf => unusedOf_follow_missing hf

end DependencyAudit.Audit
