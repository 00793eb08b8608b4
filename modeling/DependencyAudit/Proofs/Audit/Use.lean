import DependencyAudit.Proofs.Audit.Checks
import Mathlib.Data.List.Induction
import Mathlib.Data.List.Nodup

/-!
Which dependencies are unused. Of the declarations of a target those are reported whose names stand
neither in an import nor in a declaration before them. A single pass finds them that remembers which
dependencies the imports lead to and which it has reported.
-/
namespace DependencyAudit

namespace Dependency

variable {ds : List Dependency} {d : Dependency} {m : String}

/-- The declarations whose names no declaration before them has. -/
def firsts (ds : List Dependency) : List Dependency :=
  (ds.zipIdx.filter fun (d, k) => d.name ∉ (ds.take k).map (·.name)).map (·.1)

theorem any_same_iff : ds.any (·.same d) = true ↔ d.name ∈ ds.map (·.name) := by
  simp [same]

theorem mem_names_distinct : m ∈ (distinct ds).map (·.name) ↔ m ∈ ds.map (·.name) := by
  constructor
  · intro h
    obtain ⟨e, he, rfl⟩ := List.mem_map.1 h
    exact List.mem_map_of_mem (mem_of_mem_distinct he)
  · intro h
    obtain ⟨e, he, rfl⟩ := List.mem_map.1 h
    obtain ⟨c, hc, hn⟩ := exists_mem_distinct he
    rw [← hn]
    exact List.mem_map_of_mem hc

theorem distinct_concat (ds : List Dependency) (d : Dependency) :
    distinct (ds ++ [d]) =
      if d.name ∈ ds.map (·.name) then distinct ds else distinct ds ++ [d] := by
  have hany : (ds.foldl collect []).any (·.same d) = true ↔ d.name ∈ ds.map (·.name) := by
    rw [← mem_names_distinct, ← any_same_iff, distinct_eq, List.any_reverse]
  rw [distinct_eq, List.foldl_concat, collect, distinct_eq]
  by_cases h : d.name ∈ ds.map (·.name)
  · rw [if_pos (hany.2 h), if_pos h]
  · rw [if_neg (mt hany.1 h), if_neg h, List.reverse_cons]

theorem firsts_concat (ds : List Dependency) (d : Dependency) :
    firsts (ds ++ [d]) = if d.name ∈ ds.map (·.name) then firsts ds else firsts ds ++ [d] := by
  -- what stands before an old declaration is the same with and without the new one
  have hold : (ds.zipIdx.filter fun (e, k) => e.name ∉ ((ds ++ [d]).take k).map (·.name)) =
      ds.zipIdx.filter fun (e, k) => e.name ∉ (ds.take k).map (·.name) := by
    apply List.filter_congr
    rintro ⟨e, k⟩ he
    have hk : k < ds.length := by simpa using List.snd_lt_of_mem_zipIdx he
    have htake : (ds ++ [d]).take k = ds.take k := List.take_append_of_le_length (Nat.le_of_lt hk)
    simp only [htake]
  rw [firsts, List.zipIdx_append, List.filter_append, hold, List.map_append]
  by_cases h : d.name ∈ ds.map (·.name)
  · rw [if_pos h]
    simp [firsts, h]
  · rw [if_neg h]
    simp [firsts, h]

theorem distinct_eq_firsts (ds : List Dependency) : distinct ds = firsts ds := by
  induction ds using List.reverseRecOn with
  | nil => rfl
  | append_singleton ds d ih => rw [distinct_concat, firsts_concat, ih]

theorem mem_names_firsts : m ∈ (firsts ds).map (·.name) ↔ m ∈ ds.map (·.name) := by
  rw [← distinct_eq_firsts]
  exact mem_names_distinct

theorem nodup_firsts (ds : List Dependency) : ((firsts ds).map (·.name)).Nodup := by
  induction ds using List.reverseRecOn with
  | nil => exact List.nodup_nil
  | append_singleton ds d ih =>
    rw [firsts_concat]
    by_cases h : d.name ∈ ds.map (·.name)
    · rwa [if_pos h]
    · rw [if_neg h, List.map_append, List.map_singleton, ← List.concat_eq_append]
      exact ih.concat (mt mem_names_firsts.1 h)

/-- A choice by names leaves the first declarations of the names that it keeps. -/
theorem firsts_filter (keep : String → Bool) (ds : List Dependency) :
    firsts (ds.filter fun d => keep d.name) = (firsts ds).filter fun d => keep d.name := by
  induction ds using List.reverseRecOn with
  | nil => rfl
  | append_singleton ds d ih =>
    rw [List.filter_append, firsts_concat]
    cases hd : keep d.name with
    | false =>
      by_cases h : d.name ∈ ds.map (·.name)
      · simp [hd, h, ih]
      · simp [hd, h, ih]
    | true =>
      have hnames : (ds.filter fun e => keep e.name).map (·.name) = (ds.map (·.name)).filter keep :=
        List.filter_map.symm
      have hkept : d.name ∈ (ds.filter fun e => keep e.name).map (·.name) ↔
          d.name ∈ ds.map (·.name) := by
        rw [hnames, List.mem_filter, hd, eq_self_iff_true, and_true]
      rw [List.filter_singleton, hd, cond_true, firsts_concat, ih]
      by_cases h : d.name ∈ ds.map (·.name)
      · rw [if_pos h, if_pos (hkept.2 h)]
      · rw [if_neg h, if_neg (mt hkept.1 h), List.filter_append, List.filter_singleton, hd,
          cond_true]

end Dependency

namespace Audit

variable {t : Target} {found : List SourceImport} {d : Dependency}

/-- The dependencies that the imports of a target lead to, for each import the first one of its
name. -/
def imported (t : Target) (found : List SourceImport) : List Dependency :=
  found.filterMap fun i => t.dependencies.find? (·.name == i.moduleName)

/-- What is reported after one more declaration: the declaration too, if it is neither imported nor
reported before. -/
def report (imported reported : List Dependency) (d : Dependency) : List Dependency :=
  if imported.any (·.same d) || reported.any (·.same d) then reported else reported ++ [d]

theorem any_imported (hd : d ∈ t.dependencies) :
    (imported t found).any (·.same d) = imports found d.name := by
  rw [Bool.eq_iff_iff, imports_iff, List.any_eq_true]
  constructor
  · rintro ⟨e, he, hs⟩
    obtain ⟨i, hi, hfind⟩ := List.mem_filterMap.1 he
    have hn := List.find?_some hfind
    exact ⟨i, hi, (beq_iff_eq.1 hn).symm.trans (beq_iff_eq.1 hs)⟩
  · rintro ⟨i, hi, hn⟩
    cases hfind : t.dependencies.find? (·.name == i.moduleName) with
    | none => exact absurd (beq_iff_eq.2 hn.symm) (List.find?_eq_none.1 hfind d hd)
    | some e =>
      have he := List.find?_some hfind
      rw [beq_iff_eq] at he
      exact ⟨e, List.mem_filterMap.2 ⟨i, hi, hfind⟩, beq_iff_eq.2 (he.trans hn)⟩

theorem foldl_report_eq (used ds : List Dependency) :
    ds.foldl (report used) [] = Dependency.distinct (ds.filter fun d => !used.any (·.same d)) := by
  induction ds using List.reverseRecOn with
  | nil => rfl
  | append_singleton ds d ih =>
    rw [List.foldl_concat, ih, report, List.filter_append]
    cases hd : used.any (·.same d) with
    | true => simp [hd]
    | false =>
      have hreported : (Dependency.distinct (ds.filter fun e => !used.any (·.same e))).any
          (·.same d) = true ↔ d.name ∈ (ds.filter fun e => !used.any (·.same e)).map (·.name) := by
        rw [Dependency.any_same_iff, Dependency.mem_names_distinct]
      rw [List.filter_singleton, hd, Bool.not_false, cond_true, Dependency.distinct_concat,
        Bool.false_or]
      exact if_congr hreported rfl rfl

theorem unusedDependencies_eq_foldl (t : Target) (found : List SourceImport) :
    unusedDependencies t found = t.dependencies.foldl (report (imported t found)) [] := by
  rw [foldl_report_eq, unusedDependencies]
  refine congrArg _ (List.filter_congr fun d hd => ?_)
  rw [any_imported hd]

theorem unusedDependencies_eq_firsts (t : Target) (found : List SourceImport) :
    unusedDependencies t found =
      (Dependency.firsts t.dependencies).filter fun d => d.name ∉ found.map (·.moduleName) := by
  rw [unusedDependencies, Dependency.distinct_eq_firsts,
    Dependency.firsts_filter fun m => !imports found m]
  refine List.filter_congr fun d _ => ?_
  rw [Bool.eq_iff_iff]
  simp [imports]

theorem unused_eq_examined (a : Audit) :
    a.unused = a.examined.flatMap fun x =>
      (unusedDependencies x.1 x.2).map (.unused x.1.name) := by
  rw [unused_eq, eachScanned_eq]
  rfl

/-- What is reported as unused of a target are the first declarations of the names that none of its
imports has, in their order; a pass over all declarations that remembers the imported and the
reported ones finds just these. No name is reported twice and none that is imported, of a target
without imports every name is, and of a target that was not scanned none. -/
theorem unused_firsts (a : Audit) :
    a.unused = a.examined.flatMap (fun (t, found) =>
      (unusedDependencies t found).map (.unused t.name)) ∧
    (∀ t found,
      unusedDependencies t found =
        (Dependency.firsts t.dependencies).filter (fun d => d.name ∉ found.map (·.moduleName)) ∧
      unusedDependencies t found = t.dependencies.foldl (report (imported t found)) [] ∧
      ((unusedDependencies t found).map (·.name)).Nodup ∧
      (∀ i ∈ found, i.moduleName ∉ (unusedDependencies t found).map (·.name)) ∧
      ∀ m, m ∈ (unusedDependencies t []).map (·.name) ↔ m ∈ t.dependencies.map (·.name)) ∧
    ∀ name, a.scan.target? name = none → ∀ f ∈ a.unused, f.target ≠ name := by
  refine ⟨unused_eq_examined a, ?_, ?_⟩
  · intro t found
    have hfirsts := unusedDependencies_eq_firsts t found
    refine ⟨hfirsts, unusedDependencies_eq_foldl t found, ?_, ?_, ?_⟩
    · rw [hfirsts]
      exact (Dependency.nodup_firsts t.dependencies).sublist (List.filter_sublist.map _)
    · intro i hi hmem
      rw [hfirsts] at hmem
      obtain ⟨d, hd, hn⟩ := List.mem_map.1 hmem
      have hnot := (List.mem_filter.1 hd).2
      simp only [decide_eq_true_eq] at hnot
      exact hnot (hn ▸ List.mem_map_of_mem hi)
    · intro m
      rw [unusedDependencies_eq_firsts, List.filter_eq_self.2 (by simp)]
      exact Dependency.mem_names_firsts
  · intro name hnone f hf hname
    rw [unused_eq, mem_eachScanned] at hf
    obtain ⟨t, _, found, himports, hf⟩ := hf
    rw [target_of_mem_unusedOf hf] at hname
    rw [imports?, hname, hnone] at himports
    cases himports

/-- Two names are declared twice, each in both variants: of the one that is imported nothing is
reported, of the other its first declaration. An import of an ignored module is no use of it. -/
theorem unused_firsts_mixed :
    let declared (name : String) : Target :=
      { name := name, kind := .regular,
        dependencies := [.sibling "A", .product "B" "b", .sibling "C", .sibling "B", .product "A" "a"] }
    let a : Audit :=
      ⟨⟨"P", [declared "T", declared "Unscanned"]⟩,
        ⟨[⟨"T", .regular,
          [⟨⟨"f.swift"⟩, 1, "import B", "B"⟩, ⟨⟨"f.swift"⟩, 2, "import C", "C"⟩]⟩]⟩,
        { ignoredModules := [⟨"C", none⟩] }⟩
    a.unused = [.unused "T" (.sibling "A"), .unused "T" (.sibling "C")] ∧
      "B" ∉ (unusedDependencies (declared "T") [⟨⟨"f.swift"⟩, 1, "import B", "B"⟩]).map (·.name) ∧
      ∀ f ∈ a.unused, f.target ≠ "Unscanned" := by
  intro declared a
  obtain ⟨hunused, hof, hnone⟩ := unused_firsts a
  obtain ⟨_, _, _, hused, _⟩ := hof (declared "T") [⟨⟨"f.swift"⟩, 1, "import B", "B"⟩]
  refine ⟨?_, hused _ List.mem_cons_self, hnone "Unscanned" (by decide)⟩
  rw [hunused]
  decide

end Audit

end DependencyAudit
