import DependencyAudit.Proofs.Audit.Checks
import DependencyAudit.Proofs.PathOrder
import Mathlib.Data.List.SplitBy

/-!
The imports of one file. Putting imports in the order of their files mixes no files and moves nothing
inside a file, so that a group is all there is of its file; which imports are redundant is told by
that.
-/
namespace DependencyAudit

theorem Path.isLE_of_same {p q : Path} (h : p.same q = true) : (p.order q).isLE := by
  rw [Path.order_eq_iff_same.2 h]
  rfl

theorem Path.lt_of_isLE_of_not_same {p q : Path} (h : (p.order q).isLE) (hs : p.same q = false) :
    p.order q = .lt := by
  obtain hlt | heq := Ordering.isLE_iff_eq_lt_or_eq_eq.1 h
  · exact hlt
  · rw [Path.order_eq_iff_same, hs] at heq
    exact Bool.noConfusion heq

namespace Audit

variable {found g : List SourceImport} {i j : SourceImport} {p : Policy} {t : Target}
  {groups : List (List SourceImport)}

theorem isLE_file_trans (i j k : SourceImport) (h : (i.file.order j.file).isLE)
    (h' : (j.file.order k.file).isLE) : (i.file.order k.file).isLE :=
  Std.TransCmp.isLE_trans h h'

theorem isLE_file_total (i j : SourceImport) :
    ((i.file.order j.file).isLE || (j.file.order i.file).isLE) = true := by
  simpa using Path.isLE_total i.file j.file

/-- The imports in the order of their files. -/
def inOrder (found : List SourceImport) : List SourceImport :=
  found.mergeSort fun a b => (a.file.order b.file).isLE

theorem pairwise_inOrder (found : List SourceImport) :
    (inOrder found).Pairwise fun a b => (a.file.order b.file).isLE :=
  List.pairwise_mergeSort isLE_file_trans isLE_file_total found

theorem flatten_byFile (found : List SourceImport) : (byFile found).flatten = inOrder found :=
  List.flatten_splitBy _ _

theorem exists_mem_byFile (hi : i ∈ found) : ∃ g ∈ byFile found, i ∈ g := by
  have h : i ∈ (byFile found).flatten := by
    rw [flatten_byFile]
    exact (List.mergeSort_perm _ _).mem_iff.2 hi
  exact List.mem_flatten.1 h

/-- The order of the imports inside a file is kept. -/
theorem filter_inOrder (found : List SourceImport) (file : Path) :
    (inOrder found).filter (·.file.same file) = found.filter (·.file.same file) := by
  have hpair : (found.filter (·.file.same file)).Pairwise fun a b =>
      (a.file.order b.file).isLE := by
    refine List.pairwise_of_forall_mem_list fun a ha b hb => ?_
    have hfa := (List.mem_filter.1 ha).2
    have hfb := (List.mem_filter.1 hb).2
    exact Path.isLE_of_same (Path.same_trans hfa (Path.same_symm hfb))
  have hsub : (found.filter (·.file.same file)).Sublist (inOrder found) :=
    List.sublist_mergeSort isLE_file_trans isLE_file_total hpair List.filter_sublist
  have hsub' := hsub.filter (·.file.same file)
  rw [List.filter_filter] at hsub'
  simp only [Bool.and_self] at hsub'
  exact (hsub'.eq_of_length ((List.mergeSort_perm _ _).filter _).length_eq.symm).symm

theorem same_of_mem_byFile (hg : g ∈ byFile found) (hi : i ∈ g) (hj : j ∈ g) :
    i.file.same j.file = true := by
  have hchain := List.isChain_of_mem_splitBy hg
  let : Trans (fun a b : SourceImport => a.file.same b.file = true)
      (fun a b : SourceImport => a.file.same b.file = true)
      (fun a b : SourceImport => a.file.same b.file = true) := ⟨Path.same_trans⟩
  have : Std.Symm (fun a b : SourceImport => a.file.same b.file = true) :=
    ⟨fun _ _ => Path.same_symm⟩
  exact hchain.pairwise.forall_of_forall (fun k _ => Path.same_refl k.file) hi hj

/-- Groups in order whose neighbours belong to different files are strictly in order. -/
theorem pairwise_lt_of_isChain
    (hsame : ∀ g ∈ groups, ∀ i ∈ g, ∀ j ∈ g, i.file.same j.file = true)
    (hle : groups.Pairwise fun g h => ∀ i ∈ g, ∀ j ∈ h, (i.file.order j.file).isLE)
    (hc : groups.IsChain fun g h =>
      ∃ hg hh, (g.getLast hg).file.same (h.head hh).file = false) :
    groups.Pairwise fun g h => ∀ i ∈ g, ∀ j ∈ h, i.file.order j.file = .lt := by
  induction groups with
  | nil => exact List.Pairwise.nil
  | cons g groups ih =>
    have hle' := List.pairwise_cons.1 hle
    refine List.pairwise_cons.2 ⟨?_, ih (fun h hh => hsame h (List.mem_cons_of_mem g hh)) hle'.2
      hc.tail⟩
    cases groups with
    | nil => exact fun h hh => (List.not_mem_nil hh).elim
    | cons k groups =>
      obtain ⟨hg, hk, hne⟩ := (List.isChain_cons_cons.1 hc).1
      intro h hh i hi j hj
      -- from the import to the end of its group, over the border, and on to the other import
      have hlast : (i.file.order (g.getLast hg).file).isLE :=
        Path.isLE_of_same (hsame g List.mem_cons_self i hi _ (List.getLast_mem hg))
      have hborder : (g.getLast hg).file.order (k.head hk).file = .lt :=
        Path.lt_of_isLE_of_not_same
          (hle'.1 k List.mem_cons_self _ (List.getLast_mem hg) _ (List.head_mem hk)) hne
      have hrest : ((k.head hk).file.order j.file).isLE := by
        obtain rfl | hh := List.mem_cons.1 hh
        · exact Path.isLE_of_same
            (hsame _ (List.mem_cons_of_mem g List.mem_cons_self) _ (List.head_mem hk) j hj)
        · exact (List.pairwise_cons.1 hle'.2).1 h hh _ (List.head_mem hk) j hj
      exact Std.TransCmp.lt_of_isLE_of_lt hlast (Std.TransCmp.lt_of_lt_of_isLE hborder hrest)

theorem pairwise_byFile (found : List SourceImport) :
    (byFile found).Pairwise fun g h => ∀ i ∈ g, ∀ j ∈ h, i.file.order j.file = .lt := by
  have hle := pairwise_inOrder found
  rw [← flatten_byFile, List.pairwise_flatten] at hle
  have hchain := List.isChain_getLast_head_splitBy
    (fun a b : SourceImport => a.file.same b.file) (inOrder found)
  exact pairwise_lt_of_isChain (fun g hg i hi j hj => same_of_mem_byFile hg hi hj) hle.2 hchain

/-- A group holds all the imports of its file, in the order in which they were found. -/
theorem eq_filter_of_mem_byFile (hg : g ∈ byFile found) (hi : i ∈ g) :
    g = found.filter (·.file.same i.file) := by
  obtain ⟨before, after, heq⟩ := List.append_of_mem hg
  have hpair := pairwise_byFile found
  rw [heq, List.pairwise_append, List.pairwise_cons] at hpair
  obtain ⟨_, ⟨hafter, _⟩, hbefore⟩ := hpair
  have hb : before.flatten.filter (·.file.same i.file) = [] := by
    refine List.filter_eq_nil_iff.2 fun j hj hs => ?_
    obtain ⟨h, hh, hj⟩ := List.mem_flatten.1 hj
    have hlt := hbefore h hh g List.mem_cons_self j hj i hi
    rw [Path.order_eq_iff_same.2 hs] at hlt
    exact Ordering.noConfusion hlt
  have ha : after.flatten.filter (·.file.same i.file) = [] := by
    refine List.filter_eq_nil_iff.2 fun j hj hs => ?_
    obtain ⟨h, hh, hj⟩ := List.mem_flatten.1 hj
    have hlt := hafter h hh i hi j hj
    rw [Path.order_eq_iff_same.2 (Path.same_symm hs)] at hlt
    exact Ordering.noConfusion hlt
  have hown : g.filter (·.file.same i.file) = g :=
    List.filter_eq_self.2 fun j hj => same_of_mem_byFile hg hj hi
  rw [← filter_inOrder, ← flatten_byFile, heq, List.flatten_append, List.flatten_cons,
    List.filter_append, List.filter_append, hb, ha, hown, List.nil_append, List.append_nil]

theorem mem_of_mem_byFile (hg : g ∈ byFile found) (hi : i ∈ g) : i ∈ found := by
  rw [eq_filter_of_mem_byFile hg hi] at hi
  exact (List.mem_filter.1 hi).1

theorem mem_redundantIn {f : Finding} : f ∈ redundantIn p t g ↔
    ∃ i ∈ g, f = .redundantImport t.name i ∧
      ∃ r ∈ p.reexports, r.passesOn i.moduleName = true ∧ ∃ j ∈ g, j.moduleName = r.owner := by
  simp only [redundantIn, List.mem_map, List.mem_flatMap]
  constructor
  · rintro ⟨i, ⟨r, hr, hi⟩, rfl⟩
    by_cases hown : g.any (·.moduleName == r.owner) = true
    · rw [passedOn, if_pos hown, List.mem_filter] at hi
      simp only [List.any_eq_true, beq_iff_eq] at hown
      exact ⟨i, hi.1, rfl, r, hr, hi.2, hown⟩
    · rw [passedOn, if_neg hown] at hi
      exact (List.not_mem_nil hi).elim
  · rintro ⟨i, hi, rfl, r, hr, hpass, hown⟩
    have hany : g.any (·.moduleName == r.owner) = true := by simpa using hown
    refine ⟨i, ⟨r, hr, ?_⟩, rfl⟩
    rw [passedOn, if_pos hany]
    exact List.mem_filter.2 ⟨hi, hpass⟩

/-- An import is redundant just if its module is passed on by an owner that is imported in the same
file. -/
theorem mem_redundantImportsOf {f : Finding} : f ∈ redundantImportsOf p t found ↔
    ∃ i ∈ found, f = .redundantImport t.name i ∧
      ∃ r ∈ p.reexports, r.passesOn i.moduleName = true ∧
        ∃ j ∈ found, j.file.same i.file = true ∧ j.moduleName = r.owner := by
  simp only [redundantImportsOf, List.mem_flatMap, mem_redundantIn]
  constructor
  · rintro ⟨g, hg, i, hi, rfl, r, hr, hpass, j, hj, hown⟩
    exact ⟨i, mem_of_mem_byFile hg hi, rfl, r, hr, hpass, j, mem_of_mem_byFile hg hj,
      same_of_mem_byFile hg hj hi, hown⟩
  · rintro ⟨i, hi, rfl, r, hr, hpass, j, hj, hsame, hown⟩
    obtain ⟨g, hg, hig⟩ := exists_mem_byFile hi
    have hjg : j ∈ g := by
      rw [eq_filter_of_mem_byFile hg hig]
      exact List.mem_filter.2 ⟨hj, hsame⟩
    exact ⟨g, hg, i, hig, rfl, r, hr, hpass, j, hjg, hown⟩

end Audit

end DependencyAudit
