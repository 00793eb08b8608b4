import DependencyAudit.Audit.Findings
import Mathlib.Data.List.Basic
import Mathlib.Data.List.Flatten

/-!
What the checks look at. A check of imports goes through the targets that were scanned, and what is
missing are the imports that no dependency covers. Only which modules a target depends on matters
to that, and the more they are the less is missing.
-/
namespace DependencyAudit

namespace Dependency

variable {ds seen : List Dependency} {d e : Dependency}

/-- One step of collecting the first dependency of every name. -/
def collect (seen : List Dependency) (d : Dependency) : List Dependency :=
  if seen.any (·.same d) then seen else d :: seen

theorem distinct_eq (ds : List Dependency) : distinct ds = (ds.foldl collect []).reverse := rfl

theorem mem_collect (h : e ∈ collect seen d) : e = d ∨ e ∈ seen := by
  unfold collect at h
  split at h
  · exact Or.inr h
  · exact List.mem_cons.1 h

theorem exists_mem_collect (h : e = d ∨ e ∈ seen) : ∃ c ∈ collect seen d, c.name = e.name := by
  unfold collect
  split
  · rename_i hany
    obtain rfl | he := h
    · obtain ⟨c, hc, hs⟩ := List.any_eq_true.1 hany
      exact ⟨c, hc, beq_iff_eq.1 hs⟩
    · exact ⟨e, he, rfl⟩
  · exact ⟨e, List.mem_cons.2 h, rfl⟩

theorem mem_foldl_collect (h : e ∈ ds.foldl collect seen) : e ∈ ds ∨ e ∈ seen := by
  induction ds generalizing seen with
  | nil => exact Or.inr h
  | cons d ds ih =>
    obtain he | he := ih h
    · exact Or.inl (List.mem_cons_of_mem d he)
    · obtain rfl | he := mem_collect he
      · exact Or.inl List.mem_cons_self
      · exact Or.inr he

theorem exists_mem_foldl_collect (h : e ∈ ds ∨ e ∈ seen) :
    ∃ c ∈ ds.foldl collect seen, c.name = e.name := by
  induction ds generalizing seen e with
  | nil => exact ⟨e, h.resolve_left List.not_mem_nil, rfl⟩
  | cons d ds ih =>
    by_cases he : e ∈ ds
    · exact ih (Or.inl he)
    · have hd : e = d ∨ e ∈ seen := by
        obtain h | h := h
        · exact Or.inl ((List.mem_cons.1 h).resolve_right he)
        · exact Or.inr h
      obtain ⟨c, hc, hn⟩ := exists_mem_collect hd
      obtain ⟨b, hb, hbn⟩ := ih (Or.inr hc)
      exact ⟨b, hb, hbn.trans hn⟩

theorem mem_of_mem_distinct (h : e ∈ distinct ds) : e ∈ ds := by
  rw [distinct_eq, List.mem_reverse] at h
  exact (mem_foldl_collect h).resolve_right List.not_mem_nil

/-- No name is lost. -/
theorem exists_mem_distinct (h : e ∈ ds) : ∃ c ∈ distinct ds, c.name = e.name := by
  have hmem : e ∈ ds ∨ e ∈ ([] : List Dependency) := Or.inl h
  obtain ⟨c, hc, hn⟩ := exists_mem_foldl_collect hmem
  exact ⟨c, by rwa [distinct_eq, List.mem_reverse], hn⟩

end Dependency

/-- Lists that are each part of another one are all of it if their concatenations agree. -/
theorem eq_of_flatMap_eq {α β : Type} {l : List α} {g g' : α → List β}
    (h : ∀ x ∈ l, (g x).Sublist (g' x)) (heq : l.flatMap g = l.flatMap g') :
    ∀ x ∈ l, g x = g' x := by
  induction l with
  | nil => exact fun x hx => (List.not_mem_nil hx).elim
  | cons y l ih =>
    have hy := h y List.mem_cons_self
    have hl : ∀ x ∈ l, (g x).Sublist (g' x) := fun x hx => h x (List.mem_cons_of_mem y hx)
    have hlen := congrArg List.length heq
    simp only [List.flatMap_cons, List.length_append] at hlen heq
    have hrest := (List.Sublist.flatMap_right l hl).length_le
    have hgy : g y = g' y := hy.eq_of_length_le (by omega)
    rw [hgy] at heq
    intro x hx
    obtain rfl | hx := List.mem_cons.1 hx
    · exact hgy
    · exact ih hl (List.append_cancel_left heq) x hx

/-- The modules whose imports no check looks at: those of the system and those that are ignored. -/
def Policy.Exempts (p : Policy) (m : String) : Prop :=
  m ∈ p.systemModules ∨ m ∈ p.ignoredModules.map (·.name)

instance (p : Policy) (m : String) : Decidable (p.Exempts m) := inferInstanceAs (Decidable (_ ∨ _))

namespace Audit

variable {a : Audit} {p : Policy} {t u : Target} {found : List SourceImport} {m : String}
  {f : Finding} {g g' : Target → List SourceImport → List Finding} {c d : String → Bool}

/-- Targets of one name have the same imports. -/
theorem imports?_congr (a : Audit) (h : t.name = u.name) : a.imports? t = a.imports? u := by
  rw [imports?, imports?, h]

theorem found_eq_of_name {others : List SourceImport} (h : u.name = t.name)
    (hu : a.imports? u = some others) (ht : a.imports? t = some found) : others = found := by
  rw [a.imports?_congr h, ht] at hu
  exact (Option.some.inj hu).symm

/-- Entries that stand beside each other are found beside each other. -/
theorem rel_find? {R : TargetImports → TargetImports → Prop} {entries others : List TargetImports}
    (hR : ∀ x y, R x y → x.target = y.target) (h : List.Forall₂ R entries others) (name : String) :
    Option.Rel R (entries.find? (·.target == name)) (others.find? (·.target == name)) := by
  induction h with
  | nil => exact .none
  | cons hxy _ ih =>
    rw [List.find?_cons, List.find?_cons, hR _ _ hxy]
    split
    · exact .some hxy
    · exact ih

/-- The findings that a check makes at one target, if it was scanned. -/
def findingsAt (a : Audit) (g : Target → List SourceImport → List Finding) (t : Target) :
    List Finding :=
  match a.imports? t with
  | none => []
  | some found => g t found

/-- The findings that a check makes at the targets that were scanned. -/
def eachScanned (a : Audit) (g : Target → List SourceImport → List Finding) : List Finding :=
  a.targets.flatMap (a.findingsAt g)

theorem missing_eq (a : Audit) : a.missing = a.eachScanned (missingOf a.policy) := rfl

theorem unused_eq (a : Audit) : a.unused = a.eachScanned unusedOf := rfl

theorem redundantImports_eq (a : Audit) :
    a.redundantImports = a.eachScanned (redundantImportsOf a.policy) := rfl

theorem findingsAt_eq (h : a.imports? t = some found) : a.findingsAt g t = g t found := by
  rw [findingsAt, h]

theorem mem_eachScanned : f ∈ a.eachScanned g ↔
    ∃ t ∈ a.targets, ∃ found, a.imports? t = some found ∧ f ∈ g t found := by
  rw [eachScanned, List.mem_flatMap]
  refine exists_congr fun t => and_congr_right fun _ => ?_
  rw [findingsAt]
  cases a.imports? t <;> simp

theorem isNone_exemption? (p : Policy) (m : String) :
    (p.exemption? m).isNone = !(p.isSystem m || p.isIgnored m) := by
  cases hs : p.isSystem m <;> cases hi : p.isIgnored m <;> simp [Policy.exemption?, hs, hi]

/-- The targets that are not ignored and have an entry in the scan, each with those of its imports
whose modules are neither of the system nor ignored. -/
def examined (a : Audit) : List (Target × List SourceImport) :=
  (a.package.targets.filter fun t => t.name ∉ a.policy.ignoredTargets.map (·.name)).filterMap
    fun t => (a.scan.targets.find? (·.target == t.name)).map fun entry =>
      (t, entry.imports.filter fun i => i.moduleName ∉ a.policy.systemModules ∧
        i.moduleName ∉ a.policy.ignoredModules.map (·.name))

theorem targets_eq (a : Audit) : a.targets =
    a.package.targets.filter fun t => t.name ∉ a.policy.ignoredTargets.map (·.name) := by
  refine List.filter_congr fun t _ => ?_
  rw [Bool.eq_iff_iff]
  simp [Policy.ignoresTarget]

theorem examined_eq (a : Audit) :
    a.examined = a.targets.filterMap fun t => (a.imports? t).map fun found => (t, found) := by
  have himports : ∀ found, a.policy.imports found =
      found.filter fun i => i.moduleName ∉ a.policy.systemModules ∧
        i.moduleName ∉ a.policy.ignoredModules.map (·.name) := by
    intro found
    refine List.filter_congr fun i _ => ?_
    rw [isNone_exemption?, Bool.eq_iff_iff]
    simp [Policy.isSystem, Policy.isIgnored]
  rw [examined, targets_eq]
  refine List.filterMap_congr fun t _ => ?_
  rw [imports?, Option.map_map, PackageImports.target?]
  simp only [himports]
  rfl

/-- The targets that are not ignored and have an entry in the scan, each with its entry. -/
def scanned (a : Audit) : List (Target × TargetImports) :=
  (a.package.targets.filter fun t => t.name ∉ a.policy.ignoredTargets.map (·.name)).filterMap
    fun t => (a.scan.targets.find? (·.target == t.name)).map fun entry => (t, entry)

/-- What is examined of an entry are the imports that are not exempt. -/
theorem examined_eq_scanned (a : Audit) :
    a.examined = a.scanned.map fun x =>
      (x.1, x.2.imports.filter fun i => ¬ a.policy.Exempts i.moduleName) := by
  simp only [examined, scanned, List.map_filterMap, Option.map_map, Policy.Exempts, not_or]
  rfl

theorem eachScanned_eq (a : Audit) (g : Target → List SourceImport → List Finding) :
    a.eachScanned g = a.examined.flatMap fun x => g x.1 x.2 := by
  rw [examined_eq, eachScanned]
  induction a.targets with
  | nil => rfl
  | cons t ts ih =>
    rw [List.flatMap_cons, ih, List.filterMap_cons, findingsAt]
    cases a.imports? t <;> rfl

theorem eachScanned_congr
    (h : ∀ t ∈ a.targets, ∀ found, a.imports? t = some found → g t found = g' t found) :
    a.eachScanned g = a.eachScanned g' := by
  refine List.flatMap_congr fun t ht => ?_
  rw [findingsAt, findingsAt]
  cases hf : a.imports? t with
  | none => rfl
  | some found => exact h t ht found hf

theorem findingsAt_sublist
    (h : ∀ found, a.imports? t = some found → (g t found).Sublist (g' t found)) :
    (a.findingsAt g t).Sublist (a.findingsAt g' t) := by
  rw [findingsAt, findingsAt]
  cases hf : a.imports? t with
  | none => exact List.Sublist.refl []
  | some found => exact h found hf

theorem eachScanned_sublist
    (h : ∀ t ∈ a.targets, ∀ found, a.imports? t = some found → (g t found).Sublist (g' t found)) :
    (a.eachScanned g).Sublist (a.eachScanned g') :=
  List.Sublist.flatMap_right a.targets fun t ht => findingsAt_sublist (h t ht)

/-- Where no target gains findings, the findings are equal only if they are so at every target. -/
theorem eachScanned_eq_iff_of_sublist
    (h : ∀ t ∈ a.targets, ∀ found, a.imports? t = some found → (g t found).Sublist (g' t found)) :
    a.eachScanned g = a.eachScanned g' ↔
      ∀ t ∈ a.targets, ∀ found, a.imports? t = some found → g t found = g' t found := by
  refine ⟨fun heq => ?_, eachScanned_congr⟩
  intro t ht found hf
  have hat := eq_of_flatMap_eq (fun u hu => findingsAt_sublist (h u hu)) heq t ht
  rwa [findingsAt_eq hf, findingsAt_eq hf] at hat

theorem kind_of_mem_missing (h : f ∈ a.missing) : f.kind = .missing := by
  rw [missing_eq, mem_eachScanned] at h
  obtain ⟨t, _, found, _, hf⟩ := h
  obtain ⟨i, _, rfl⟩ := List.mem_map.1 hf
  rfl

theorem kind_of_mem_unused (h : f ∈ a.unused) : f.kind = .unused := by
  rw [unused_eq, mem_eachScanned] at h
  obtain ⟨t, _, found, _, hf⟩ := h
  obtain ⟨d, _, rfl⟩ := List.mem_map.1 hf
  rfl

theorem kind_of_mem_redundantDependencies (h : f ∈ a.redundantDependencies) :
    f.kind = .redundantDependency := by
  obtain ⟨t, _, hf⟩ := List.mem_flatMap.1 h
  obtain ⟨d, _, rfl⟩ := List.mem_map.1 hf
  rfl

theorem target_of_mem_missingOf (h : f ∈ missingOf p t found) : f.target = t.name := by
  obtain ⟨i, _, rfl⟩ := List.mem_map.1 h
  rfl

theorem target_of_mem_unusedOf (h : f ∈ unusedOf t found) : f.target = t.name := by
  obtain ⟨d, _, rfl⟩ := List.mem_map.1 h
  rfl

theorem imports_iff : imports found m = true ↔ ∃ i ∈ found, i.moduleName = m := by
  simp [imports]

/-- Whether dependencies on the given modules cover an import. -/
def covers (p : Policy) (dependsOn : String → Bool) (m : String) : Bool :=
  dependsOn m || (p.exporter? m).any fun r => dependsOn r.owner

theorem covers_mono (h : ∀ n, c n = true → d n = true)
    (hc : covers p c m = true) : covers p d m = true := by
  simp only [covers, Bool.or_eq_true, Option.any_eq_true] at hc ⊢
  obtain hc | ⟨r, hr, hc⟩ := hc
  · exact Or.inl (h m hc)
  · exact Or.inr ⟨r, hr, h r.owner hc⟩

theorem coverage_eq_uncovered_iff :
    coverage p t m = .uncovered ↔ covers p t.dependsOn m = false := by
  unfold coverage covers
  cases t.dependsOn m with
  | true => simp
  | false =>
    cases p.exporter? m with
    | none => simp
    | some r => cases hr : t.dependsOn r.owner <;> simp [hr]

theorem covers_iff : covers p t.dependsOn m = true ↔ coverage p t m ≠ .uncovered := by
  rw [ne_eq, coverage_eq_uncovered_iff, Bool.not_eq_false]

/-- The imports that dependencies on the given modules leave uncovered. -/
def uncovered (p : Policy) (dependsOn : String → Bool) (found : List SourceImport) :
    List SourceImport :=
  found.filter fun i => !covers p dependsOn i.moduleName

theorem mem_uncovered {i : SourceImport} :
    i ∈ uncovered p c found ↔ i ∈ found ∧ covers p c i.moduleName = false := by
  simp [uncovered]

theorem uncovered_sublist (h : ∀ n, c n = true → d n = true) :
    (uncovered p d found).Sublist (uncovered p c found) := by
  refine List.monotone_filter_right found fun i hi => ?_
  rw [Bool.not_eq_true', Bool.eq_false_iff] at hi ⊢
  exact fun hc => hi (covers_mono h hc)

/-- Fewer dependencies leave nothing more uncovered only if they cover what the others cover. -/
theorem uncovered_eq_iff (h : ∀ n, c n = true → d n = true) :
    uncovered p d found = uncovered p c found ↔
      ∀ i ∈ found, covers p d i.moduleName = true → covers p c i.moduleName = true := by
  constructor
  · intro heq i hi hd
    by_contra hc
    have hmem : i ∈ uncovered p c found := mem_uncovered.2 ⟨hi, Bool.eq_false_iff.2 hc⟩
    rw [← heq, mem_uncovered, hd] at hmem
    exact Bool.noConfusion hmem.2
  · intro hall
    refine List.filter_congr fun i hi => ?_
    cases hc : covers p c i.moduleName with
    | true => rw [covers_mono h hc]
    | false =>
      have hd : covers p d i.moduleName = false := by
        rw [Bool.eq_false_iff]
        intro hd
        simp [hall i hi hd] at hc
      rw [hd]

theorem missingOf_eq (p : Policy) (t : Target) (found : List SourceImport) :
    missingOf p t found = (uncovered p t.dependsOn found).map (.missing t.name) := by
  simp [missingOf, uncovered, coverage_eq_uncovered_iff]

/-- What is missing if every scanned target depends on the given modules only. -/
def missingWith (a : Audit) (dependsOn : Target → List SourceImport → String → Bool) :
    List Finding :=
  a.eachScanned fun t found =>
    (uncovered a.policy (dependsOn t found) found).map (.missing t.name)

theorem missing_eq_missingWith (a : Audit) :
    a.missing = a.missingWith fun t _ => t.dependsOn :=
  eachScanned_congr fun t _ found _ => missingOf_eq a.policy t found

theorem missingWith_sublist {c d : Target → List SourceImport → String → Bool}
    (h : ∀ t found m, c t found m = true → d t found m = true) :
    (a.missingWith d).Sublist (a.missingWith c) :=
  eachScanned_sublist fun t _ found _ => (uncovered_sublist (h t found)).map _

theorem missingWith_eq_iff {c d : Target → List SourceImport → String → Bool}
    (h : ∀ t found m, c t found m = true → d t found m = true) :
    a.missingWith c = a.missingWith d ↔
      ∀ t ∈ a.targets, ∀ found, a.imports? t = some found → ∀ i ∈ found,
        covers a.policy (d t found) i.moduleName = true →
          covers a.policy (c t found) i.moduleName = true := by
  have hinj : ∀ name, Function.Injective (Finding.missing name) := by
    intro name i j hij
    exact (Finding.missing.inj hij).2
  rw [eq_comm, missingWith, missingWith, eachScanned_eq_iff_of_sublist
    fun t _ found _ => (uncovered_sublist (h t found)).map _]
  refine forall₂_congr fun t _ => forall₂_congr fun found _ => ?_
  rw [← uncovered_eq_iff (h t found)]
  exact (List.map_injective_iff.2 (hinj t.name)).eq_iff

end Audit

end DependencyAudit
