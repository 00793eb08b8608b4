import DependencyAudit.Proofs.Audit.Files
import Mathlib.Logic.Relation
import Mathlib.Order.WellFoundedSet

/-!
The modules that a file has: those that it imports and those that are passed on to it, from owner to
owner. Where no module is passed on to itself, deleting all redundant imports at once loses none of
them, though the owners that made some of them redundant may go too.
-/
namespace DependencyAudit

namespace Policy

variable {p : Policy} {owner m : String} {given others : String → Prop}

def Passes (p : Policy) (owner m : String) : Prop :=
  ∃ r ∈ p.reexports, r.owner = owner ∧ m ∈ r.modules

/-- No module comes back to itself along the re-exports. -/
def Acyclic (p : Policy) : Prop := ∀ m, ¬ Relation.TransGen p.Passes m m

/-- The least set of modules that holds the given ones and, with an owner, what it passes on. -/
inductive Available (p : Policy) (given : String → Prop) : String → Prop
  | given {m : String} : given m → Available p given m
  | passed {owner m : String} : Available p given owner → p.Passes owner m → Available p given m

theorem available_of_forall (h : ∀ m, given m → p.Available others m)
    (hm : p.Available given m) : p.Available others m := by
  induction hm with
  | given hm => exact h _ hm
  | passed _ hp ih => exact .passed ih hp

/-- Declarations that only lead to modules of a higher rank make no cycle. -/
theorem acyclic_of_rank (rank : String → Nat)
    (h : ∀ r ∈ p.reexports, ∀ m ∈ r.modules, rank r.owner < rank m) : p.Acyclic := by
  have hstep : ∀ {o m}, Relation.TransGen p.Passes o m → rank o < rank m := by
    intro o m hm
    induction hm with
    | single hp =>
      obtain ⟨r, hr, rfl, hm⟩ := hp
      exact h r hr _ hm
    | tail _ hp ih =>
      obtain ⟨r, hr, rfl, hm⟩ := hp
      exact Nat.lt_trans ih (h r hr _ hm)
  exact fun m hm => Nat.lt_irrefl _ (hstep hm)

/-- Among finitely many modules, what holds of a module if it holds of the owners that pass it on
holds of all of them. -/
theorem Acyclic.induction (h : p.Acyclic) {modules : List String} {P : String → Prop}
    (step : ∀ m ∈ modules, (∀ owner ∈ modules, p.Passes owner m → P owner) → P m) :
    ∀ m ∈ modules, P m := by
  have : IsStrictOrder String (Relation.TransGen p.Passes) :=
    { irrefl := h, trans := fun _ _ _ => Relation.TransGen.trans }
  have hwf : Set.WellFoundedOn {m | m ∈ modules} (Relation.TransGen p.Passes) :=
    (List.finite_toSet modules).wellFoundedOn
  intro m hm
  refine hwf.induction hm fun m hm ih => step m hm fun owner howner hp => ?_
  exact ih owner howner (.single hp)

end Policy

namespace Audit

variable {a : Audit} {t : Target} {found : List SourceImport} {i : SourceImport}

/-- The imports of one file, under all its spellings. -/
def ofFile (found : List SourceImport) (file : Path) : List SourceImport :=
  found.filter (·.file.same file)

/-- Whether some finding reports the import of the target as redundant. -/
def reportsRedundant (a : Audit) (t : Target) (i : SourceImport) : Bool :=
  a.redundantImports.any (·.same (.redundantImport t.name i))

/-- The imports that remain when all that are reported as redundant are deleted. -/
def remaining (a : Audit) (t : Target) (inFile : List SourceImport) : List SourceImport :=
  inFile.filter fun i => !a.reportsRedundant t i

/-- The modules that a file with these imports has. -/
def Has (p : Policy) (inFile : List SourceImport) : String → Prop :=
  p.Available fun m => ∃ i ∈ inFile, i.moduleName = m

/-- An import is reported just if an owner that passes its module on is imported in the same file,
whichever target of the name reports it. -/
theorem reportsRedundant_iff (ht : t ∈ a.targets) (hf : a.imports? t = some found)
    (hi : i ∈ found) : a.reportsRedundant t i = true ↔
      ∃ j ∈ found, j.file.same i.file = true ∧ a.policy.Passes j.moduleName i.moduleName := by
  rw [reportsRedundant, List.any_eq_true, redundantImports_eq]
  constructor
  · rintro ⟨f, hmem, hsame⟩
    obtain ⟨u, _, others, hu, hmem⟩ := mem_eachScanned.1 hmem
    obtain ⟨k, _, rfl, r, hr, hpass, j, hj, hfile, hown⟩ := mem_redundantImportsOf.1 hmem
    simp only [Finding.same, SourceImport.same, Bool.and_eq_true, beq_iff_eq] at hsame
    obtain ⟨hname, ⟨⟨hki, _⟩, _⟩, hmodule⟩ := hsame
    obtain rfl := found_eq_of_name hname hu hf
    refine ⟨j, hj, Path.same_trans hfile hki, r, hr, hown.symm, ?_⟩
    rw [← hmodule]
    exact List.contains_iff_mem.1 hpass
  · rintro ⟨j, hj, hfile, r, hr, hown, hm⟩
    have hmem : .redundantImport t.name i ∈ redundantImportsOf a.policy t found :=
      mem_redundantImportsOf.2
        ⟨i, hi, rfl, r, hr, List.contains_iff_mem.2 hm, j, hj, hfile, hown.symm⟩
    exact ⟨_, mem_eachScanned.2 ⟨t, ht, found, hf, hmem⟩,
      by simp [Finding.same, SourceImport.same, Path.same_refl]⟩

/-- Every import of a file is still available from those that remain. -/
theorem has_remaining (h : a.policy.Acyclic) (ht : t ∈ a.targets) (hf : a.imports? t = some found)
    (file : Path) (hi : i ∈ ofFile found file) :
    Has a.policy (a.remaining t (ofFile found file)) i.moduleName := by
  have hall : ∀ m ∈ (ofFile found file).map (·.moduleName),
      Has a.policy (a.remaining t (ofFile found file)) m := by
    refine h.induction fun m hm ih => ?_
    obtain ⟨k, hk, rfl⟩ := List.mem_map.1 hm
    cases hr : a.reportsRedundant t k with
    | false =>
      exact .given ⟨k, List.mem_filter.2 ⟨hk, by simp [hr]⟩, rfl⟩
    | true =>
      obtain ⟨hkfound, hkfile⟩ := List.mem_filter.1 hk
      obtain ⟨j, hj, hfile, hp⟩ := (reportsRedundant_iff ht hf hkfound).1 hr
      have hjk : j ∈ ofFile found file :=
        List.mem_filter.2 ⟨hj, Path.same_trans hfile hkfile⟩
      exact .passed (ih j.moduleName (List.mem_map_of_mem hjk) hp) hp
  exact hall _ (List.mem_map_of_mem hi)

/-- Deleting all imports of a file that are reported as redundant loses no module. -/
theorem has_remaining_iff (a : Audit) (h : a.policy.Acyclic) :
    ∀ t ∈ a.targets, ∀ found, a.imports? t = some found → ∀ file m,
      Has a.policy (a.remaining t (ofFile found file)) m ↔ Has a.policy (ofFile found file) m := by
  intro t ht found hf file m
  constructor
  · refine Policy.available_of_forall fun m hm => ?_
    obtain ⟨i, hi, rfl⟩ := hm
    exact .given ⟨i, (List.mem_filter.1 hi).1, rfl⟩
  · refine Policy.available_of_forall fun m hm => ?_
    obtain ⟨i, hi, rfl⟩ := hm
    exact has_remaining h ht hf file hi

/-- A chain of owners in one file that is spelt in two ways: the last is reported because of the
second, the second because of the first, and what the last brings is still there. -/
theorem has_remaining_iff_chain :
    let policy : Policy := { reexports := [⟨"B", ["C"]⟩, ⟨"A", ["B"]⟩] }
    let target : Target := { name := "T", kind := .regular }
    let last : SourceImport := ⟨⟨"p/f.swift"⟩, 1, "import C", "C"⟩
    let first : SourceImport := ⟨⟨"p//f.swift"⟩, 2, "import A", "A"⟩
    let second : SourceImport := ⟨⟨"p/f.swift"⟩, 3, "import B", "B"⟩
    let found : List SourceImport := [last, first, second]
    let a : Audit := ⟨⟨"P", [target]⟩, ⟨[⟨"T", .regular, found⟩]⟩, policy⟩
    policy.Acyclic ∧ a.reportsRedundant target last = true ∧
      a.reportsRedundant target second = true ∧
      Has policy (a.remaining target (ofFile found ⟨"p/f.swift"⟩)) "C" := by
  intro policy target last first second found a
  have hacyclic : policy.Acyclic :=
    Policy.acyclic_of_rank (fun m => if m = "A" then 0 else if m = "B" then 1 else 2) (by decide)
  have ht : target ∈ a.targets := by decide
  have hf : a.imports? target = some found := by decide
  have hlast : a.reportsRedundant target last = true :=
    (reportsRedundant_iff ht hf (by decide)).2
      ⟨second, by decide, by decide, ⟨"B", ["C"]⟩, by decide, rfl, by decide⟩
  have hsecond : a.reportsRedundant target second = true :=
    (reportsRedundant_iff ht hf (by decide)).2
      ⟨first, by decide, by decide, ⟨"A", ["B"]⟩, by decide, rfl, by decide⟩
  refine ⟨hacyclic, hlast, hsecond, ?_⟩
  have hmem : last ∈ ofFile found ⟨"p/f.swift"⟩ := by decide
  exact (has_remaining_iff a hacyclic target ht found hf _ "C").2 (.given ⟨last, hmem, rfl⟩)

end Audit

end DependencyAudit
