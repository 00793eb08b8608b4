import DependencyAudit.Proofs.Audit.Coverage
import DependencyAudit.Proofs.Audit.Redundancy
import Mathlib.Data.List.Perm.Basic

/-!
The order of the re-exports. The checks ask whether some declaration passes a module on, except that
redundant imports are told declaration by declaration and that a missing dependency is judged by the
first exporter. So another order can only reorder what is redundant inside one file, and it leaves
alone what is missing as long as no two owners pass on the same module.
-/
namespace DependencyAudit

variable {p q : Policy} {r s : Reexport} {m : String}

namespace Policy

/-- Whoever passes on a module, it is always the same owner. -/
def OneOwner (p : Policy) : Prop :=
  ∀ r ∈ p.reexports, ∀ s ∈ p.reexports, ∀ m ∈ r.modules, m ∈ s.modules → r.owner = s.owner

instance (p : Policy) : Decidable p.OneOwner :=
  inferInstanceAs (Decidable (∀ r ∈ p.reexports, ∀ s ∈ p.reexports, ∀ m ∈ r.modules,
    m ∈ s.modules → r.owner = s.owner))

theorem mem_of_exporter? (h : p.exporter? m = some r) : r ∈ p.reexports ∧ m ∈ r.modules := by
  obtain ⟨before, after, heq, _, hm⟩ := exporter?_eq_some_iff.1 h
  exact ⟨by simp [heq], hm⟩

theorem OneOwner.owner_exporter? (hone : p.OneOwner) (h : p.reexports.Perm q.reexports)
    (m : String) : (p.exporter? m).map (·.owner) = (q.exporter? m).map (·.owner) := by
  cases hp : p.exporter? m with
  | none =>
    have hnone : q.exporter? m = none := by
      apply exporter?_eq_none_iff.2
      intro r hr
      exact exporter?_eq_none_iff.1 hp r (h.mem_iff.2 hr)
    rw [hnone]
  | some r =>
    obtain ⟨hr, hm⟩ := mem_of_exporter? hp
    cases hq : q.exporter? m with
    | none => exact absurd hm (exporter?_eq_none_iff.1 hq r (h.mem_iff.1 hr))
    | some s =>
      obtain ⟨hs, hm'⟩ := mem_of_exporter? hq
      exact congrArg some (hone r hr s (h.mem_iff.2 hs) m hm hm')

end Policy

namespace Audit

variable {a : Audit} {t : Target} {found g : List SourceImport} {f : Finding}

theorem isRedundant_of_perm (h : p.reexports.Perm q.reexports) : isRedundant p = isRedundant q := by
  funext t d
  exact h.any_eq

theorem redundantIn_perm (h : p.reexports.Perm q.reexports) (t : Target) (g : List SourceImport) :
    (redundantIn p t g).Perm (redundantIn q t g) :=
  (h.flatMap_right fun r => passedOn r g).map _

theorem covers_eq (p : Policy) (dependsOn : String → Bool) (m : String) :
    covers p dependsOn m = (dependsOn m || ((p.exporter? m).map (·.owner)).any dependsOn) := by
  rw [covers]
  cases p.exporter? m <;> rfl

theorem missingOf_of_oneOwner (hone : p.OneOwner) (h : p.reexports.Perm q.reexports) :
    missingOf p = missingOf q := by
  funext t found
  rw [missingOf_eq, missingOf_eq]
  refine congrArg _ (List.filter_congr fun i _ => ?_)
  rw [covers_eq, covers_eq, hone.owner_exporter? h]

/-- Two lists of findings about examined targets, taken target by target and file by file in the order
of paths, that differ at most in how the findings of one file of one target are arranged. -/
def RearrangedInFiles (examined : List (Target × List SourceImport)) (fs gs : List Finding) : Prop :=
  ∃ files : List SourceImport → List Path, (∀ found, Files (files found) found) ∧
    ∃ before after : Target → List SourceImport → List Finding,
      fs = examined.flatMap (fun (t, found) =>
        (files found).flatMap fun file => before t (found.filter (·.file.same file))) ∧
      gs = examined.flatMap (fun (t, found) =>
        (files found).flatMap fun file => after t (found.filter (·.file.same file))) ∧
      ∀ t inFile, (before t inFile).Perm (after t inFile) ∧
        ∀ f ∈ before t inFile, ∃ i ∈ inFile, f = .redundantImport t.name i

theorem RearrangedInFiles.perm {examined : List (Target × List SourceImport)} {fs gs : List Finding}
    (h : RearrangedInFiles examined fs gs) : fs.Perm gs := by
  obtain ⟨files, _, before, after, rfl, rfl, hblocks⟩ := h
  apply List.Perm.flatMap_left
  rintro ⟨t, found⟩ _
  apply List.Perm.flatMap_left
  intro file _
  exact (hblocks t _).1

/-- The audit under other re-exports. -/
def withReexports (a : Audit) (rs : List Reexport) : Audit :=
  { a with policy := { a.policy with reexports := rs } }

/-- The re-exports have no say in what is examined. -/
theorem eachScanned_withReexports (a : Audit) (rs : List Reexport)
    (check : Target → List SourceImport → List Finding) :
    (a.withReexports rs).eachScanned check = a.eachScanned check := rfl

/-- The files in which the imports stand. -/
def filesOf (found : List SourceImport) : List Path := (byFile found).map fileOf

theorem redundantImports_eq_examined (a : Audit) (files : List SourceImport → List Path)
    (h : ∀ x ∈ a.examined, Files (files x.2) x.2) :
    a.redundantImports = a.examined.flatMap fun (t, found) =>
      (files found).flatMap fun file => redundantIn a.policy t (found.filter (·.file.same file)) := by
  rw [redundantImports_eq, eachScanned_eq]
  exact List.flatMap_congr fun x hx => redundantImportsOf_eq (h x hx)

theorem rearranged_redundantImports {rs : List Reexport} (h : a.policy.reexports.Perm rs) :
    RearrangedInFiles a.examined a.redundantImports (a.withReexports rs).redundantImports := by
  refine ⟨filesOf, files_byFile, redundantIn a.policy, redundantIn (a.withReexports rs).policy,
    redundantImports_eq_examined a filesOf fun x _ => files_byFile x.2,
    redundantImports_eq_examined (a.withReexports rs) filesOf fun x _ => files_byFile x.2, ?_⟩
  intro t inFile
  refine ⟨redundantIn_perm h t inFile, ?_⟩
  intro f hf
  obtain ⟨i, hi, hf, _⟩ := mem_redundantIn.1 hf
  exact ⟨i, hi, hf⟩

/-- In another order of the re-exports the same dependencies are unused and redundant. The same
imports are redundant, and only those of one file of one target may be found in another order. What
is missing is the same too if each module has one owner. -/
theorem findings_reordered (a : Audit) (rs : List Reexport) (h : a.policy.reexports.Perm rs) :
    (a.withReexports rs).unused = a.unused ∧
    (a.withReexports rs).redundantDependencies = a.redundantDependencies ∧
    RearrangedInFiles a.examined a.redundantImports (a.withReexports rs).redundantImports ∧
    (a.withReexports rs).redundantImports.Perm a.redundantImports ∧
    (a.policy.OneOwner → (a.withReexports rs).missing = a.missing) := by
  have hperm : a.policy.reexports.Perm (a.withReexports rs).policy.reexports := h
  have hrearranged := rearranged_redundantImports h
  refine ⟨?_, ?_, hrearranged, hrearranged.perm.symm, ?_⟩
  · exact eachScanned_withReexports a rs unusedOf
  · have hof : redundantDependenciesOf (a.withReexports rs).policy =
        redundantDependenciesOf a.policy := by
      funext t
      rw [redundantDependenciesOf, redundantDependenciesOf, isRedundant_of_perm hperm]
    rw [redundantDependencies, redundantDependencies, hof]
    rfl
  · intro hone
    rw [missing_eq, missing_eq, ← missingOf_of_oneOwner hone hperm]
    exact eachScanned_withReexports a rs (missingOf a.policy)

/-- Two owners change places: what they make redundant in the file that imports both does so too, and
the file before it keeps its place. -/
theorem findings_reordered_owners :
    let imported (file m : String) (line : Nat) : SourceImport := ⟨⟨file⟩, line, "import " ++ m, m⟩
    let core := imported "b.swift" "Core" 3
    let socket := imported "b.swift" "Socket" 4
    let label := imported "a.swift" "Label" 2
    let found := [imported "b.swift" "UI" 1, imported "b.swift" "Net" 2, core, socket,
      imported "a.swift" "UI" 1, label]
    let a : Audit :=
      ⟨⟨"P", [{ name := "T", kind := .regular, dependencies := [.sibling "UI"] }]⟩,
        ⟨[⟨"T", .regular, found⟩]⟩,
        { reexports := [⟨"UI", ["Core", "Label"]⟩, ⟨"Net", ["Socket"]⟩] }⟩
    let rs : List Reexport := [⟨"Net", ["Socket"]⟩, ⟨"UI", ["Core", "Label"]⟩]
    a.policy.reexports.Perm rs ∧ a.policy.OneOwner ∧
      a.redundantImports = [.redundantImport "T" label, .redundantImport "T" core,
        .redundantImport "T" socket] ∧
      (a.withReexports rs).redundantImports = [.redundantImport "T" label,
        .redundantImport "T" socket, .redundantImport "T" core] ∧
      (a.withReexports rs).redundantImports.Perm a.redundantImports ∧
      (a.withReexports rs).missing =
        [.missing "T" (imported "b.swift" "Net" 2), .missing "T" socket] := by
  intro imported core socket label found a rs
  have hperm : a.policy.reexports.Perm rs := by decide
  have hone : a.policy.OneOwner := by decide
  obtain ⟨_, _, _, hredundant, hmissing⟩ := findings_reordered a rs hperm
  have hfiles : ∀ x ∈ a.examined, Files [⟨"a.swift"⟩, ⟨"b.swift"⟩] x.2 := by
    intro x hx
    have hexamined : a.examined = [(a.package.targets.head!, found)] := by decide
    rw [hexamined, List.mem_singleton] at hx
    subst hx
    exact ⟨by decide, by decide, by decide⟩
  refine ⟨hperm, hone, ?_, ?_, hredundant, ?_⟩
  · rw [redundantImports_eq_examined a (fun _ => [⟨"a.swift"⟩, ⟨"b.swift"⟩]) hfiles]
    decide
  · rw [redundantImports_eq_examined (a.withReexports rs)
      (fun _ => [⟨"a.swift"⟩, ⟨"b.swift"⟩]) hfiles]
    decide
  · rw [hmissing hone]
    decide

end Audit

end DependencyAudit
