import DependencyAudit.Proofs.Audit.Files
import DependencyAudit.Proofs.Scan.Entries

/-!
Files that are spelt differently. The checks look at files by their components only, so that imports
whose files are respelt lead to the same findings, in the same order and about respelt imports.
-/
namespace DependencyAudit

namespace SourceImport

/-- The same import of a file that is perhaps spelt otherwise, but shown under the same name. -/
structure Respelt (i j : SourceImport) : Prop where
  same : i.same j = true
  shown : i.file.displayName = j.file.displayName

/-- What respelt imports have in common. -/
def shownKey (i : SourceImport) : (List Component × Nat × String × String) × String :=
  (i.key, i.file.displayName)

theorem respelt_iff {i j : SourceImport} : i.Respelt j ↔ i.shownKey = j.shownKey := by
  rw [shownKey, shownKey, Prod.mk.injEq, ← same_iff_key]
  exact ⟨fun h => ⟨h.same, h.shown⟩, fun h => ⟨h.1, h.2⟩⟩

theorem forall₂_respelt_iff {is js : List SourceImport} :
    List.Forall₂ Respelt is js ↔ is.map shownKey = js.map shownKey := by
  have hrel : List.Forall₂ Respelt is js ↔
      List.Forall₂ (fun i j => i.shownKey = j.shownKey) is js :=
    ⟨fun h => h.imp fun _ _ => respelt_iff.1, fun h => h.imp fun _ _ => respelt_iff.2⟩
  rw [hrel, ← List.forall₂_eq_eq_eq, List.forall₂_map_left_iff, List.forall₂_map_right_iff]

theorem Respelt.moduleName {i j : SourceImport} (h : i.Respelt j) :
    i.moduleName = j.moduleName :=
  congrArg (·.2.2.2) (same_iff_key.1 h.same)

end SourceImport

open SourceImport (Respelt)

/-- Entries of the same target that hold respelt imports. -/
structure TargetImports.Respelt (a b : TargetImports) : Prop where
  target : a.target = b.target
  kind : a.kind = b.kind
  imports : List.Forall₂ SourceImport.Respelt a.imports b.imports

/-- The same finding, about an import that is perhaps respelt. -/
inductive Finding.Alike : Finding → Finding → Prop
  | missing (target : String) {i j : SourceImport} :
    i.Respelt j → Alike (.missing target i) (.missing target j)
  | unused (target : String) (d : Dependency) : Alike (.unused target d) (.unused target d)
  | redundantImport (target : String) {i j : SourceImport} :
    i.Respelt j → Alike (.redundantImport target i) (.redundantImport target j)
  | redundantDependency (target : String) (d : Dependency) :
    Alike (.redundantDependency target d) (.redundantDependency target d)

theorem Finding.Alike.same {f g : Finding} (h : f.Alike g) : f.same g = true := by
  cases h with
  | missing target hi => simp [Finding.same, hi.same]
  | unused target d => simp [Finding.same, Dependency.same]
  | redundantImport target hi => simp [Finding.same, hi.same]
  | redundantDependency target d => simp [Finding.same, Dependency.same]

/-- Splitting a list after it was mapped. -/
theorem map_splitBy {α β : Type} {f : α → β} {r : α → α → Bool} {s : β → β → Bool}
    (h : ∀ a b, r a b = s (f a) (f b)) (l : List α) :
    (l.splitBy r).map (List.map f) = (l.map f).splitBy s := by
  symm
  rw [List.splitBy_eq_iff]
  refine ⟨?_, ?_, ?_, ?_⟩
  · rw [← List.map_flatten, List.flatten_splitBy]
  · simp
  · intro g hg
    obtain ⟨k, hk, rfl⟩ := List.mem_map.1 hg
    rw [List.isChain_map]
    exact (List.isChain_of_mem_splitBy hk).imp fun a b hab => by rwa [← h]
  · rw [List.isChain_map]
    refine (List.isChain_getLast_head_splitBy r l).imp fun g k hgk => ?_
    obtain ⟨hg, hk, hr⟩ := hgk
    exact ⟨by simpa using hg, by simpa using hk, by simpa [← h] using hr⟩

namespace Audit

variable {a b : Audit} {p : Policy} {t : Target} {found others : List SourceImport}

theorem map_shownKey_byFile (found : List SourceImport) :
    (byFile found).map (List.map SourceImport.shownKey) =
      ((found.map SourceImport.shownKey).mergeSort fun k l =>
        (List.compareLex Component.order k.1.1 l.1.1).isLE).splitBy
          fun k l => decide (k.1.1 = l.1.1) := by
  have hsplit := map_splitBy (f := SourceImport.shownKey)
    (r := fun a b => a.file.same b.file) (s := fun k l => decide (k.1.1 = l.1.1)) fun _ _ => rfl
  have hsort := List.map_mergeSort (f := SourceImport.shownKey) (l := found)
    (r := fun a b => (a.file.order b.file).isLE)
    (s := fun k l => (List.compareLex Component.order k.1.1 l.1.1).isLE) fun _ _ _ _ => rfl
  rw [byFile, hsplit, hsort]

/-- Respelling moves no import to another file. -/
theorem respelt_byFile (h : List.Forall₂ Respelt found others) :
    List.Forall₂ (List.Forall₂ Respelt) (byFile found) (byFile others) := by
  have hkeys : (byFile found).map (List.map SourceImport.shownKey) =
      (byFile others).map (List.map SourceImport.shownKey) := by
    rw [map_shownKey_byFile, map_shownKey_byFile, SourceImport.forall₂_respelt_iff.1 h]
  rw [← List.forall₂_eq_eq_eq, List.forall₂_map_left_iff, List.forall₂_map_right_iff] at hkeys
  exact hkeys.imp fun _ _ => SourceImport.forall₂_respelt_iff.2

theorem map_moduleName_of_respelt (h : List.Forall₂ Respelt found others) :
    found.map (·.moduleName) = others.map (·.moduleName) := by
  induction h with
  | nil => rfl
  | cons hij _ ih => rw [List.map_cons, List.map_cons, hij.moduleName, ih]

theorem any_moduleName_of_respelt (h : List.Forall₂ Respelt found others) (m : String) :
    (found.any fun i => i.moduleName == m) = others.any fun i => i.moduleName == m := by
  have hany : ∀ is : List SourceImport,
      (is.any fun i => i.moduleName == m) = (is.map (·.moduleName)).any (· == m) := by
    intro is
    rw [List.any_map]
    rfl
  rw [hany, hany, map_moduleName_of_respelt h]

/-- A choice by modules chooses respelt imports. -/
theorem respelt_filter (h : List.Forall₂ Respelt found others) (q : String → Bool) :
    List.Forall₂ Respelt (found.filter fun i => q i.moduleName)
      (others.filter fun i => q i.moduleName) := by
  refine List.rel_filter ?_ h
  intro i j hij
  simp [hij.moduleName]

theorem alike_missingOf (h : List.Forall₂ Respelt found others) :
    List.Forall₂ Finding.Alike (missingOf p t found) (missingOf p t others) :=
  List.rel_map (fun _ _ hij => .missing t.name hij)
    (respelt_filter h fun m => decide (coverage p t m = .uncovered))

theorem unusedOf_of_respelt (h : List.Forall₂ Respelt found others) :
    unusedOf t found = unusedOf t others := by
  have himports : imports found = imports others :=
    funext fun m => any_moduleName_of_respelt h m
  rw [unusedOf, unusedOf, unusedDependencies, unusedDependencies, himports]

theorem alike_unusedOf (h : List.Forall₂ Respelt found others) :
    List.Forall₂ Finding.Alike (unusedOf t found) (unusedOf t others) := by
  rw [unusedOf_of_respelt h]
  refine List.forall₂_same.2 fun f hf => ?_
  obtain ⟨d, _, rfl⟩ := List.mem_map.1 hf
  exact .unused t.name d

theorem respelt_passedOn (r : Reexport) (h : List.Forall₂ Respelt found others) :
    List.Forall₂ Respelt (passedOn r found) (passedOn r others) := by
  rw [passedOn, passedOn, any_moduleName_of_respelt h]
  split
  · exact respelt_filter h r.passesOn
  · exact .nil

theorem alike_redundantIn (h : List.Forall₂ Respelt found others) :
    List.Forall₂ Finding.Alike (redundantIn p t found) (redundantIn p t others) := by
  refine List.rel_map (fun _ _ hij => .redundantImport t.name hij) ?_
  refine List.rel_flatMap (List.forall₂_same.2 fun r _ => (rfl : r = r)) ?_
  rintro r _ rfl
  exact respelt_passedOn r h

theorem alike_redundantImportsOf (h : List.Forall₂ Respelt found others) :
    List.Forall₂ Finding.Alike (redundantImportsOf p t found) (redundantImportsOf p t others) :=
  List.rel_flatMap (respelt_byFile h) fun _ _ hg => alike_redundantIn hg

/-- Audits of one package under one policy, whose scans hold respelt imports. -/
structure Respelt (a b : Audit) : Prop where
  package : a.package = b.package
  policy : a.policy = b.policy
  scan : List.Forall₂ TargetImports.Respelt a.scan.targets b.scan.targets

theorem Respelt.imports? (h : a.Respelt b) (t : Target) :
    Option.Rel (List.Forall₂ SourceImport.Respelt) (a.imports? t) (b.imports? t) := by
  have hentry := rel_find? (fun _ _ => TargetImports.Respelt.target) h.scan t.name
  rw [Audit.imports?, Audit.imports?, PackageImports.target?, PackageImports.target?, h.policy]
  generalize a.scan.targets.find? _ = entry, b.scan.targets.find? _ = other at hentry
  cases hentry with
  | none => exact .none
  | some hab =>
    exact .some (respelt_filter hab.imports fun m => (b.policy.exemption? m).isNone)

/-- A check that finds alike in respelt imports does so at all targets. -/
theorem Respelt.eachScanned (h : a.Respelt b) {g : Target → List SourceImport → List Finding}
    (hg : ∀ t {found others}, List.Forall₂ SourceImport.Respelt found others →
      List.Forall₂ Finding.Alike (g t found) (g t others)) :
    List.Forall₂ Finding.Alike (a.eachScanned g) (b.eachScanned g) := by
  have htargets : a.targets = b.targets := by
    rw [targets, targets, h.package, h.policy]
  rw [Audit.eachScanned, Audit.eachScanned, ← htargets]
  refine List.rel_flatMap (List.forall₂_same.2 fun t _ => (rfl : t = t)) ?_
  rintro t _ rfl
  have himports := h.imports? t
  rw [findingsAt, findingsAt]
  generalize a.imports? t = found, b.imports? t = others at himports
  cases himports with
  | none => exact .nil
  | some hfound => exact hg t hfound

/-- Respelling changes the findings of an audit only by respelling them. -/
theorem Respelt.findings (h : a.Respelt b) :
    List.Forall₂ Finding.Alike a.findings b.findings := by
  have hmissing : List.Forall₂ Finding.Alike a.missing b.missing := by
    rw [missing_eq, missing_eq, ← h.policy]
    exact h.eachScanned fun _ => alike_missingOf
  have hunused : List.Forall₂ Finding.Alike a.unused b.unused :=
    h.eachScanned fun _ => alike_unusedOf
  have himports : List.Forall₂ Finding.Alike a.redundantImports b.redundantImports := by
    rw [redundantImports_eq, redundantImports_eq, ← h.policy]
    exact h.eachScanned fun _ => alike_redundantImportsOf
  have hdependencies :
      List.Forall₂ Finding.Alike a.redundantDependencies b.redundantDependencies := by
    rw [Audit.redundantDependencies, Audit.redundantDependencies, targets, targets, h.package,
      h.policy]
    refine List.forall₂_same.2 fun f hf => ?_
    obtain ⟨t, _, hf⟩ := List.mem_flatMap.1 hf
    obtain ⟨d, _, rfl⟩ := List.mem_map.1 hf
    exact .redundantDependency t.name d
  exact List.rel_append (List.rel_append (List.rel_append hmissing hunused) himports) hdependencies

end Audit

end DependencyAudit
