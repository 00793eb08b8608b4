import DependencyAudit.Proofs.Audit.Files
import Mathlib.Algebra.GroupWithZero.Nat
import Mathlib.Data.List.Count

/-!
Redundant imports, file by file. Each file of a target is looked at once and in its turn. How often
an import is found is told by the declarations that pass its module on and by the imports of its own
file, whatever stands in other files.
-/
namespace DependencyAudit

variable {found others g : List SourceImport} {files files' : List Path} {i : SourceImport}
  {p : Policy} {t : Target} {name : String}

/-- The files in which imports stand, each of them once and in the order of paths. -/
structure Files (files : List Path) (found : List SourceImport) : Prop where
  ascending : files.Pairwise fun p q => p.order q = .lt
  complete : ∀ i ∈ found, ∃ file ∈ files, i.file.same file = true
  occupied : ∀ file ∈ files, ∃ i ∈ found, i.file.same file = true

/-- Imports of the same files that follow each other alike inside each of them. -/
def Interleaved (found others : List SourceImport) : Prop :=
  ∀ file, found.filter (·.file.same file) = others.filter (·.file.same file)

/-- Entries of the same target whose files are perhaps interleaved in another way. -/
structure TargetImports.Interleaved (a b : TargetImports) : Prop where
  target : a.target = b.target
  imports : DependencyAudit.Interleaved a.imports b.imports

theorem filter_same_congr {p q : Path} (h : p.same q = true) (found : List SourceImport) :
    found.filter (·.file.same p) = found.filter (·.file.same q) := by
  refine List.filter_congr fun i _ => ?_
  rw [Path.same, Path.same, Path.same_iff.1 h]

/-- Only the files that occur have to be compared. -/
theorem interleaved_iff : Interleaved found others ↔ ∀ i ∈ found ++ others,
    found.filter (·.file.same i.file) = others.filter (·.file.same i.file) := by
  constructor
  · intro h i _
    exact h i.file
  · intro h file
    by_cases hfile : ∃ i ∈ found ++ others, i.file.same file = true
    · obtain ⟨i, hi, hs⟩ := hfile
      rw [← filter_same_congr hs, ← filter_same_congr hs]
      exact h i hi
    · have hnone : ∀ i ∈ found ++ others, ¬ i.file.same file = true :=
        fun i hi hs => hfile ⟨i, hi, hs⟩
      rw [List.filter_eq_nil_iff.2 fun i hi => hnone i (List.mem_append_left others hi),
        List.filter_eq_nil_iff.2 fun i hi => hnone i (List.mem_append_right found hi)]

instance : Decidable (Interleaved found others) := decidable_of_iff _ interleaved_iff.symm

theorem Interleaved.symm (h : Interleaved found others) : Interleaved others found :=
  fun file => (h file).symm

theorem Interleaved.mem (h : Interleaved found others) (hi : i ∈ found) : i ∈ others := by
  have hmem : i ∈ found.filter (·.file.same i.file) :=
    List.mem_filter.2 ⟨hi, Path.same_refl i.file⟩
  rw [h] at hmem
  exact (List.mem_filter.1 hmem).1

theorem Interleaved.filter (h : Interleaved found others) (keep : SourceImport → Bool) :
    Interleaved (found.filter keep) (others.filter keep) := by
  intro file
  rw [List.filter_comm, h file, List.filter_comm]

theorem Files.interleaved (hf : Files files found) (h : Interleaved found others) :
    Files files others where
  ascending := hf.ascending
  complete i hi := hf.complete i (h.symm.mem hi)
  occupied file hfile := by
    obtain ⟨i, hi, hs⟩ := hf.occupied file hfile
    exact ⟨i, h.mem hi, hs⟩

theorem Files.forall₂_same (h : Files files found) (h' : Files files' found) :
    List.Forall₂ (fun p q => p.same q = true) files files' := by
  refine Path.forall₂_same_of_ascending h.ascending h'.ascending ?_ ?_
  · intro file hfile
    obtain ⟨i, hi, hs⟩ := h.occupied file hfile
    obtain ⟨other, hother, hs'⟩ := h'.complete i hi
    exact ⟨other, hother, Path.same_trans (Path.same_symm hs) hs'⟩
  · intro file hfile
    obtain ⟨i, hi, hs⟩ := h'.occupied file hfile
    obtain ⟨other, hother, hs'⟩ := h.complete i hi
    exact ⟨other, hother, Path.same_trans (Path.same_symm hs) hs'⟩

namespace Audit

/-- The file of a group, as its first import spells it. -/
def fileOf (g : List SourceImport) : Path := (g.headD default).file

theorem exists_mem_fileOf (hg : g ∈ byFile found) : ∃ i ∈ g, i.file = fileOf g := by
  cases g with
  | nil => exact (List.nil_notMem_splitBy _ _ hg).elim
  | cons i g => exact ⟨i, List.mem_cons_self, rfl⟩

theorem same_fileOf (hg : g ∈ byFile found) (hi : i ∈ g) : i.file.same (fileOf g) = true := by
  obtain ⟨first, hfirst, hfile⟩ := exists_mem_fileOf hg
  rw [← hfile]
  exact same_of_mem_byFile hg hi hfirst

/-- The files of the groups are the files of the imports. -/
theorem files_byFile (found : List SourceImport) : Files ((byFile found).map fileOf) found where
  ascending := by
    rw [List.pairwise_map]
    refine (pairwise_byFile found).imp_of_mem fun hg hh hlt => ?_
    obtain ⟨i, hi, hfile⟩ := exists_mem_fileOf hg
    obtain ⟨j, hj, hfile'⟩ := exists_mem_fileOf hh
    rw [← hfile, ← hfile']
    exact hlt i hi j hj
  complete i hi := by
    obtain ⟨g, hg, hig⟩ := exists_mem_byFile hi
    exact ⟨fileOf g, List.mem_map_of_mem hg, same_fileOf hg hig⟩
  occupied file hfile := by
    obtain ⟨g, hg, rfl⟩ := List.mem_map.1 hfile
    obtain ⟨i, hi, hfile⟩ := exists_mem_fileOf hg
    exact ⟨i, mem_of_mem_byFile hg hi, by rw [hfile]; exact Path.same_refl _⟩

/-- The groups are what the imports of each file are. -/
theorem byFile_eq_map (h : Files files found) :
    byFile found = files.map fun file => found.filter (·.file.same file) := by
  have hgroups : byFile found =
      ((byFile found).map fileOf).map fun file => found.filter (·.file.same file) := by
    rw [List.map_map]
    refine (List.map_id _).symm.trans (List.map_congr_left fun g hg => ?_)
    obtain ⟨i, hi, hfile⟩ := exists_mem_fileOf hg
    rw [id, Function.comp_apply, ← hfile]
    exact eq_filter_of_mem_byFile hg hi
  rw [hgroups, ← List.forall₂_eq_eq_eq, List.forall₂_map_left_iff, List.forall₂_map_right_iff]
  exact ((files_byFile found).forall₂_same h).imp fun _ _ hs => filter_same_congr hs found

/-- What is redundant in a file is told declaration by declaration, as far as their owners are
imported in it. -/
theorem redundantIn_eq (p : Policy) (t : Target) (g : List SourceImport) :
    redundantIn p t g =
      ((p.reexports.filter fun r => g.any (·.moduleName == r.owner)).flatMap fun r =>
        g.filter fun i => r.modules.contains i.moduleName).map (.redundantImport t.name) := by
  rw [redundantIn]
  congr 1
  induction p.reexports with
  | nil => rfl
  | cons r rs ih =>
    rw [List.flatMap_cons, ih, List.filter_cons, passedOn]
    split
    · rfl
    · rfl

theorem redundantImportsOf_eq (h : Files files found) :
    redundantImportsOf p t found =
      files.flatMap fun file => redundantIn p t (found.filter (·.file.same file)) := by
  rw [redundantImportsOf, byFile_eq_map h, List.flatMap_map]

theorem redundantImportsOf_interleaved (h : Interleaved found others) :
    redundantImportsOf p t found = redundantImportsOf p t others := by
  have hfiles := files_byFile found
  rw [redundantImportsOf_eq hfiles, redundantImportsOf_eq (hfiles.interleaved h)]
  refine List.flatMap_congr fun file _ => ?_
  rw [h file]

/-- How many declarations pass on the module of an import and have an owner that is imported in the
same file. -/
def exporters (p : Policy) (found : List SourceImport) (i : SourceImport) : Nat :=
  (p.reexports.filter fun r => r.modules.contains i.moduleName &&
    found.any fun j => j.file.same i.file && j.moduleName == r.owner).length

theorem count_passedOn (r : Reexport) (g : List SourceImport) (i : SourceImport) :
    (passedOn r g).count i =
      if r.modules.contains i.moduleName && g.any (·.moduleName == r.owner) then g.count i
      else 0 := by
  rw [passedOn]
  cases g.any (·.moduleName == r.owner) with
  | false => simp
  | true =>
    rw [if_pos rfl, Bool.and_true]
    cases hpass : r.modules.contains i.moduleName with
    | true => exact List.count_filter hpass
    | false =>
      refine List.count_eq_zero.2 fun hmem => ?_
      have hpass' := (List.mem_filter.1 hmem).2
      rw [Reexport.passesOn, hpass] at hpass'
      exact Bool.noConfusion hpass'

/-- Every declaration that concerns an import reports all its occurrences. -/
theorem count_flatMap_passedOn (rs : List Reexport) (g : List SourceImport) (i : SourceImport) :
    (rs.flatMap fun r => passedOn r g).count i =
      g.count i * (rs.filter fun r => r.modules.contains i.moduleName &&
        g.any (·.moduleName == r.owner)).length := by
  induction rs with
  | nil => rfl
  | cons r rs ih =>
    rw [List.flatMap_cons, List.count_append, ih, count_passedOn, List.filter_cons]
    split
    · rw [List.length_cons, Nat.mul_succ, Nat.add_comm]
    · rw [Nat.zero_add]

theorem count_redundantIn (hg : g ∈ byFile found) (i : SourceImport) :
    (redundantIn p t g).count (.redundantImport t.name i) = g.count i * exporters p found i := by
  have hinj : Function.Injective (Finding.redundantImport t.name) :=
    fun _ _ h => (Finding.redundantImport.inj h).2
  rw [redundantIn, List.count_map_of_injective _ _ hinj, count_flatMap_passedOn]
  by_cases hi : i ∈ g
  · have howner : ∀ m, (g.any fun j => j.moduleName == m) =
        found.any fun j => j.file.same i.file && j.moduleName == m := by
      intro m
      rw [eq_filter_of_mem_byFile hg hi, List.any_filter]
    simp only [howner]
    rfl
  · rw [List.count_eq_zero.2 hi, Nat.zero_mul, Nat.zero_mul]

theorem count_flatMap_redundantIn {groups : List (List SourceImport)}
    (h : ∀ g ∈ groups, g ∈ byFile found) (i : SourceImport) :
    (groups.flatMap (redundantIn p t)).count (.redundantImport t.name i) =
      groups.flatten.count i * exporters p found i := by
  induction groups with
  | nil => exact (Nat.zero_mul _).symm
  | cons g groups ih =>
    rw [List.flatMap_cons, List.count_append, count_redundantIn (h g List.mem_cons_self),
      ih fun k hk => h k (List.mem_cons_of_mem g hk), List.flatten_cons, List.count_append,
      Nat.add_mul]

theorem count_redundantImportsOf (p : Policy) (t : Target) (found : List SourceImport)
    (name : String) (i : SourceImport) :
    (redundantImportsOf p t found).count (.redundantImport name i) =
      if t.name = name then found.count i * exporters p found i else 0 := by
  split
  · rename_i hname
    subst hname
    rw [redundantImportsOf, count_flatMap_redundantIn (fun _ hg => hg), flatten_byFile, inOrder,
      (List.mergeSort_perm _ _).count_eq]
  · rename_i hname
    refine List.count_eq_zero.2 fun hmem => hname ?_
    obtain ⟨j, _, heq, _⟩ := mem_redundantImportsOf.1 hmem
    exact (Finding.redundantImport.inj heq).1.symm

/-- The targets that were examined under a name report an import once for each declaration that
makes it redundant in its file, and once more for each further occurrence. -/
theorem count_redundantImports (a : Audit) (name : String) (i : SourceImport) :
    a.redundantImports.count (.redundantImport name i) =
      ((a.examined.filter (·.1.name = name)).map fun x =>
        x.2.count i * exporters a.policy x.2 i).sum := by
  rw [redundantImports_eq, eachScanned_eq]
  induction a.examined with
  | nil => rfl
  | cons x xs ih =>
    rw [List.flatMap_cons, List.count_append, ih, count_redundantImportsOf, List.filter_cons]
    by_cases hname : x.1.name = name
    · simp [hname]
    · simp [hname]

theorem imports?_interleaved {a b : Audit} (hp : a.policy = b.policy)
    (h : List.Forall₂ TargetImports.Interleaved a.scan.targets b.scan.targets) (t : Target) :
    Option.Rel Interleaved (a.imports? t) (b.imports? t) := by
  have hentry := rel_find? (fun _ _ => TargetImports.Interleaved.target) h t.name
  rw [imports?, imports?, PackageImports.target?, PackageImports.target?, hp]
  generalize a.scan.targets.find? _ = entry, b.scan.targets.find? _ = other at hentry
  cases hentry with
  | none => exact .none
  | some hxy => exact .some (hxy.imports.filter _)

theorem redundantImports_interleaved {a b : Audit} (hpackage : a.package = b.package)
    (hpolicy : a.policy = b.policy)
    (h : List.Forall₂ TargetImports.Interleaved a.scan.targets b.scan.targets) :
    a.redundantImports = b.redundantImports := by
  have htargets : a.targets = b.targets := by rw [targets, targets, hpackage, hpolicy]
  rw [redundantImports_eq, redundantImports_eq, eachScanned, eachScanned, htargets, hpolicy]
  refine List.flatMap_congr fun t _ => ?_
  have himports := imports?_interleaved hpolicy h t
  rw [findingsAt, findingsAt]
  generalize a.imports? t = found, b.imports? t = others at himports
  cases himports with
  | none => rfl
  | some hx => exact redundantImportsOf_interleaved hx

/-- Files of a target are looked at one by one and in order, and for each of them the declarations
whose owners are imported in it, each of which reports the imports of that file that it passes on. So
an import is reported as often as it occurs and as there are such declarations, and how the files
were interleaved in the scan makes no difference. -/
theorem redundantImports_files (a : Audit) :
    (∃ files : List SourceImport → List Path, ∀ found, Files (files found) found) ∧
    (∀ files : List SourceImport → List Path, (∀ x ∈ a.examined, Files (files x.2) x.2) →
      a.redundantImports = a.examined.flatMap fun (t, found) => (files found).flatMap fun file =>
        let inFile := found.filter (·.file.same file)
        ((a.policy.reexports.filter fun r => inFile.any (·.moduleName == r.owner)).flatMap fun r =>
          inFile.filter fun i => r.modules.contains i.moduleName).map (.redundantImport t.name)) ∧
    (∀ name i, a.redundantImports.count (.redundantImport name i) =
      ((a.examined.filter (·.1.name = name)).map fun x =>
        x.2.count i * (a.policy.reexports.filter fun r => r.modules.contains i.moduleName &&
          x.2.any fun j => j.file.same i.file && j.moduleName == r.owner).length).sum) ∧
    ∀ entries, List.Forall₂ TargetImports.Interleaved a.scan.targets entries →
      ({ a with scan := ⟨entries⟩ } : Audit).redundantImports = a.redundantImports := by
  refine ⟨⟨_, files_byFile⟩, ?_, count_redundantImports a, ?_⟩
  · intro files hfiles
    rw [redundantImports_eq, eachScanned_eq]
    refine List.flatMap_congr fun x hx => ?_
    rw [redundantImportsOf_eq (hfiles x hx)]
    exact List.flatMap_congr fun file _ => redundantIn_eq a.policy x.1 _
  · intro entries h
    exact (redundantImports_interleaved (a := a) (b := { a with scan := ⟨entries⟩ }) rfl rfl h).symm

/-- Two declarations pass on a module that is imported in two files, of which one, under two
spellings, imports their owner: there the import is reported twice, and in the other file not. -/
theorem redundantImports_files_respelt :
    let imported (file m : String) (line : Nat) : SourceImport := ⟨⟨file⟩, line, "import " ++ m, m⟩
    let owner := imported "S//a.swift" "UI" 1
    let core := imported "S/a.swift" "Core" 2
    let other := imported "S/b.swift" "Core" 1
    let policy : Policy :=
      { systemModules := ["Foundation"], reexports := [⟨"UI", ["Core"]⟩, ⟨"UI", ["Net", "Core"]⟩] }
    let package : Package := ⟨"P", [{ name := "T", kind := .regular }]⟩
    let mixed : TargetImports :=
      ⟨"T", .regular, [other, owner, imported "S/b.swift" "Foundation" 2, core]⟩
    let sorted : TargetImports :=
      ⟨"T", .regular, [owner, core, other, imported "S/b.swift" "Foundation" 2]⟩
    let a : Audit := ⟨package, ⟨[mixed]⟩, policy⟩
    (∀ x ∈ a.examined, Files [⟨"S/a.swift"⟩, ⟨"S/b.swift"⟩] x.2) ∧ mixed.Interleaved sorted ∧
      a.redundantImports = [.redundantImport "T" core, .redundantImport "T" core] ∧
      a.redundantImports.count (.redundantImport "T" other) = 0 ∧
      (Audit.mk package ⟨[sorted]⟩ policy).redundantImports = a.redundantImports := by
  intro imported owner core other policy package mixed sorted a
  have hfiles : ∀ x ∈ a.examined, Files [⟨"S/a.swift"⟩, ⟨"S/b.swift"⟩] x.2 := by
    intro x hx
    have hexamined : a.examined = [(package.targets.head!, [other, owner, core])] := by decide
    rw [hexamined, List.mem_singleton] at hx
    subst hx
    exact ⟨by decide, by decide, by decide⟩
  have hmixed : mixed.Interleaved sorted := ⟨rfl, by decide⟩
  obtain ⟨_, hexact, hcount, hinterleaved⟩ := redundantImports_files a
  refine ⟨hfiles, hmixed, ?_, ?_, hinterleaved [sorted] (.cons hmixed .nil)⟩
  · rw [hexact (fun _ => [⟨"S/a.swift"⟩, ⟨"S/b.swift"⟩]) hfiles]
    decide
  · rw [hcount]
    decide

end Audit

end DependencyAudit
