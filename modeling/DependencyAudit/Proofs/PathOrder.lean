import DependencyAudit.Path
import Mathlib.Data.List.Forall2
import Mathlib.Data.List.Sort

/-!
Paths come in a total order, in which only the spellings of one path stand level. How a list is put
in order does not depend on what else it holds.
-/
namespace DependencyAudit

section Sorting

variable {α : Type} {le : α → α → Bool}

/-- The first element of a list goes between what has to stand before it and all the rest. -/
theorem mergeSort_cons_eq (trans : ∀ a b c, le a b → le b c → le a c)
    (total : ∀ a b, le a b || le b a) (a : α) (l : List α) :
    (a :: l).mergeSort le =
      (l.mergeSort le).filter (fun b => !le a b) ++ a :: (l.mergeSort le).filter (le a) := by
  obtain ⟨before, after, hsorted, hl, hbefore⟩ := List.mergeSort_cons trans total a l
  have hordered := List.pairwise_mergeSort trans total (a :: l)
  rw [hsorted, List.pairwise_append, List.pairwise_cons] at hordered
  have hafter : ∀ b ∈ after, le a b = true := hordered.2.1.1
  have hfront : (before ++ after).filter (fun b => !le a b) = before := by
    rw [List.filter_append, List.filter_eq_self.2 hbefore,
      List.filter_eq_nil_iff.2 fun b hb => by simp [hafter b hb], List.append_nil]
  have hback : (before ++ after).filter (le a) = after := by
    rw [List.filter_append, List.filter_eq_self.2 hafter,
      List.filter_eq_nil_iff.2 fun b hb => by simpa using hbefore b hb, List.nil_append]
  rw [hsorted, hl, hfront, hback]

/-- What is left out makes no difference to the order of the others. -/
theorem filter_mergeSort (trans : ∀ a b c, le a b → le b c → le a c)
    (total : ∀ a b, le a b || le b a) (keep : α → Bool) (l : List α) :
    (l.mergeSort le).filter keep = (l.filter keep).mergeSort le := by
  induction l with
  | nil => simp
  | cons a l ih =>
    cases hkeep : keep a with
    | false =>
      have hdrop : ¬ keep a = true := by simp [hkeep]
      obtain ⟨before, after, hsorted, hl, _⟩ := List.mergeSort_cons trans total a l
      rw [hsorted, List.filter_append, List.filter_cons_of_neg hdrop,
        List.filter_cons_of_neg hdrop, ← List.filter_append, ← hl, ih]
    | true =>
      have hcomm : ∀ test : α → Bool, ((l.mergeSort le).filter test).filter keep =
          ((l.filter keep).mergeSort le).filter test := by
        intro test
        rw [← ih, List.filter_filter, List.filter_filter]
        exact List.filter_congr fun b _ => Bool.and_comm _ _
      rw [List.filter_cons_of_pos hkeep, mergeSort_cons_eq trans total,
        mergeSort_cons_eq trans total, List.filter_append, List.filter_cons_of_pos hkeep,
        hcomm, hcomm]

end Sorting

namespace Component

theorem order_swap (a b : Component) : order a b = (order b a).swap := by
  cases a <;> cases b <;> first | rfl | exact Std.OrientedOrd.eq_swap

instance : Std.OrientedCmp order where
  eq_swap := order_swap _ _

instance : Std.TransCmp order where
  isLE_trans {a b c} hab hbc := by
    cases a <;> cases b <;> cases c <;> first
      | exact Std.TransOrd.isLE_trans hab hbc
      | contradiction
      | rfl

instance : Std.LawfulEqCmp order where
  compare_self {a} := by
    cases a with
    | name text => exact Std.ReflOrd.compare_self
    | _ => rfl
  eq_of_compare {a b} h := by
    cases a <;> cases b <;> first
      | rfl
      | contradiction
      | exact congrArg name (Std.LawfulEqOrd.eq_of_compare h)

end Component

namespace Path

variable {p q r : Path} {ps qs : List Path}

theorem same_iff : p.same q = true ↔ p.components = q.components := by
  simp [same]

theorem same_refl (p : Path) : p.same p = true := same_iff.2 rfl

theorem same_symm (h : p.same q = true) : q.same p = true :=
  same_iff.2 (same_iff.1 h).symm

theorem same_trans (h : p.same q = true) (h' : q.same r = true) : p.same r = true :=
  same_iff.2 ((same_iff.1 h).trans (same_iff.1 h'))

theorem order_eq_iff_same : p.order q = .eq ↔ p.same q = true := by
  rw [same_iff, order]
  exact Std.LawfulEqCmp.compare_eq_iff_eq

instance : Std.OrientedCmp order where
  eq_swap {p q} := by
    rw [order, order]
    exact Std.OrientedCmp.eq_swap

instance : Std.TransCmp order where
  isLE_trans {p q r} h h' := by
    rw [order] at h h' ⊢
    exact Std.TransCmp.isLE_trans h h'

theorem isLE_total (p q : Path) : (p.order q).isLE ∨ (q.order p).isLE := by
  have hs : p.order q = (q.order p).swap := Std.OrientedCmp.eq_swap
  rw [hs]
  cases q.order p <;> simp

/-- Files put in order are in order. -/
theorem pairwise_mergeSort (ps : List Path) :
    (ps.mergeSort fun p q => (p.order q).isLE).Pairwise fun p q => (p.order q).isLE := by
  apply List.pairwise_mergeSort
  · intro p q r h h'
    exact Std.TransCmp.isLE_trans h h'
  · intro p q
    simpa using isLE_total p q

theorem forall₂_same_iff :
    List.Forall₂ (fun p q => p.same q = true) ps qs ↔ ps.map components = qs.map components := by
  have hmap : List.Forall₂ (fun c d => c = d) (ps.map components) (qs.map components) ↔
      List.Forall₂ (fun p q => p.components = q.components) ps qs := by
    rw [List.forall₂_map_left_iff, List.forall₂_map_right_iff]
  rw [List.forall₂_eq_eq_eq] at hmap
  simp only [same_iff]
  exact hmap.symm

/-- Two ways of putting the same paths in order differ in the spellings at most. -/
theorem forall₂_same_of_perm (h : ps.Perm qs)
    (hp : ps.Pairwise fun p q => (p.order q).isLE)
    (hq : qs.Pairwise fun p q => (p.order q).isLE) :
    List.Forall₂ (fun p q => p.same q = true) ps qs := by
  have hps : (ps.map components).Pairwise fun c d => (List.compareLex Component.order c d).isLE :=
    List.pairwise_map.2 hp
  have hqs : (qs.map components).Pairwise fun c d => (List.compareLex Component.order c d).isLE :=
    List.pairwise_map.2 hq
  rw [forall₂_same_iff]
  refine (h.map components).eq_of_pairwise ?_ hps hqs
  intro c d _ _ hcd hdc
  exact Std.LawfulEqCmp.eq_of_compare (Std.OrientedCmp.isLE_antisymm hcd hdc)

/-- A strict order of paths leaves no choice but that of the spellings. -/
theorem forall₂_same_of_ascending (hp : ps.Pairwise fun p q => p.order q = .lt)
    (hq : qs.Pairwise fun p q => p.order q = .lt) (hpq : ∀ p ∈ ps, ∃ q ∈ qs, p.same q = true)
    (hqp : ∀ q ∈ qs, ∃ p ∈ ps, q.same p = true) :
    List.Forall₂ (fun p q => p.same q = true) ps qs := by
  let below (c d : List Component) : Prop := List.compareLex Component.order c d = .lt
  have : Std.Irrefl below := ⟨fun c h => by simp [below, Std.ReflCmp.compare_self] at h⟩
  have : Std.Antisymm below := ⟨fun c d h h' => by
    have hs : List.compareLex Component.order c d =
        (List.compareLex Component.order d c).swap := Std.OrientedCmp.eq_swap
    rw [h, h'] at hs
    exact Ordering.noConfusion hs⟩
  have hps : (ps.map components).Pairwise below := List.pairwise_map.2 hp
  have hqs : (qs.map components).Pairwise below := List.pairwise_map.2 hq
  rw [forall₂_same_iff]
  refine hps.eq_of_mem_iff hqs fun c => ?_
  simp only [List.mem_map]
  constructor
  · rintro ⟨p, hmem, rfl⟩
    obtain ⟨q, hq, hs⟩ := hpq p hmem
    exact ⟨q, hq, (same_iff.1 hs).symm⟩
  · rintro ⟨q, hmem, rfl⟩
    obtain ⟨p, hp, hs⟩ := hqp q hmem
    exact ⟨p, hp, (same_iff.1 hs).symm⟩

end Path

end DependencyAudit
