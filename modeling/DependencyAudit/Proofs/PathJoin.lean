import DependencyAudit.Proofs.PathOrder
import DependencyAudit.Proofs.Text.Lines

/-!
Paths seen from a directory. A relative path adds its steps to the components of the directory,
whatever directory that is.
-/
namespace DependencyAudit.Path

open Text

variable {base p q r : Path} {c : Component} {cs ds : List Component} {piece : List Char}
  {ps qs : List (List Char)}

/-- What a relative path adds to the directory that it is seen from. -/
def steps (p : Path) : List Component := p.pieces.filterMap component?

/-- The components that the pieces of a path give. -/
def placed : List (List Char) → List Component
  | [] :: piece :: rest => .root :: (piece :: rest).filterMap component?
  | ['.'] :: rest => .current :: rest.filterMap component?
  | pieces => pieces.filterMap component?

theorem components_eq (p : Path) : p.components = placed p.pieces := rfl

theorem placed_cons (hempty : piece ≠ []) (hdot : piece ≠ ['.']) (ps : List (List Char)) :
    placed (piece :: ps) = (piece :: ps).filterMap component? := by
  unfold placed
  split <;> simp_all

theorem placed_append (hne : ps ≠ []) (hempty : ps ≠ [[]]) (qs : List (List Char)) :
    placed (ps ++ qs) = placed ps ++ qs.filterMap component? := by
  obtain ⟨piece, rest, rfl⟩ := List.exists_cons_of_ne_nil hne
  by_cases hroot : piece = []
  · subst hroot
    cases rest with
    | nil => exact (hempty rfl).elim
    | cons next rest =>
      rw [List.cons_append, List.cons_append, placed, placed, ← List.cons_append,
        List.filterMap_append, List.cons_append]
  · by_cases hdot : piece = ['.']
    · subst hdot
      exact congrArg (Component.current :: ·) List.filterMap_append
    · rw [List.cons_append, placed_cons hroot hdot, placed_cons hroot hdot, ← List.cons_append,
        List.filterMap_append]

/-- An empty piece at the end stands for nothing, but makes a root of an empty piece before it. -/
theorem placed_append_slash (hps : ps ≠ []) (hqs : qs ≠ []) :
    placed (ps ++ qs) = placed (ps ++ [[]]) ++ qs.filterMap component? := by
  by_cases hempty : ps = [[]]
  · subst hempty
    obtain ⟨piece, rest, rfl⟩ := List.exists_cons_of_ne_nil hqs
    rfl
  · rw [placed_append hps hempty, placed_append hps hempty]
    simp [component?]

theorem pieces_ne_empty {cs : List Char} (h : cs ≠ []) : Text.pieces slash cs ≠ [[]] := by
  obtain ⟨c, cs, rfl⟩ := List.exists_cons_of_ne_nil h
  obtain ⟨first, rest, hrest⟩ := List.exists_cons_of_ne_nil (pieces_ne_nil slash cs)
  rw [pieces_cons, hrest, extendPieces]
  split <;> simp

/-- What stands in front of a relative path that is seen from a directory. -/
def lead (base : Path) : String :=
  if base.text = "" ∨ base.text.toList.getLast? = some slash then base.text else base.text ++ "/"

theorem join_of_relative (h : p.isAbsolute = false) : base.join p = ⟨base.lead ++ p.text⟩ := by
  rw [join, h, if_neg Bool.false_ne_true, lead]
  split <;> rfl

theorem components_join (hb : base.text ≠ "") (hp : p.isAbsolute = false) :
    (base.join p).components = base.components ++ p.steps := by
  have hchars : base.text.toList ≠ [] := by rwa [ne_eq, String.toList_eq_nil_iff]
  rw [join_of_relative hp, lead, components_eq, components_eq, steps]
  by_cases hslash : base.text.toList.getLast? = some slash
  · obtain ⟨front, hfront⟩ := List.getLast?_eq_some_iff.1 hslash
    have hjoined : pieces ⟨base.text ++ p.text⟩ = Text.pieces slash front ++ p.pieces := by
      rw [pieces, String.toList_append, hfront, List.append_assoc, List.singleton_append,
        pieces_append]
      rfl
    have hbase : base.pieces = Text.pieces slash front ++ [[]] := by
      rw [pieces, hfront, pieces_append]
      rfl
    rw [if_pos (Or.inr hslash), hjoined, hbase]
    exact placed_append_slash (pieces_ne_nil _ _) (pieces_ne_nil _ _)
  · have hjoined : pieces ⟨base.text ++ "/" ++ p.text⟩ = base.pieces ++ p.pieces := by
      rw [pieces, String.toList_append, String.toList_append, List.append_assoc]
      exact pieces_append slash _ _
    rw [if_neg (by simp [hb, hslash]), hjoined]
    exact placed_append (pieces_ne_nil _ _) (pieces_ne_empty hchars) _

theorem empty_join (h : p.isAbsolute = false) : (⟨""⟩ : Path).join p = p := by
  rw [join_of_relative h, lead, if_pos (Or.inl rfl), String.empty_append]

theorem lead_append (front : String) (hne : p.text ≠ "") :
    (⟨front ++ p.text⟩ : Path).lead = front ++ p.lead := by
  have hempty : front ++ p.text ≠ "" := by simp [hne]
  have hlast : (front ++ p.text).toList.getLast? = p.text.toList.getLast? := by
    rw [String.toList_append, List.getLast?_append_of_ne_nil]
    rwa [ne_eq, String.toList_eq_nil_iff]
  rw [lead, lead, hlast]
  by_cases hslash : p.text.toList.getLast? = some slash
  · rw [if_pos (Or.inr hslash), if_pos (Or.inr hslash)]
  · rw [if_neg (by simp [hempty, hslash]), if_neg (by simp [hne, hslash]), String.append_assoc]

theorem isAbsolute_join (hp : p.isAbsolute = false) (hne : p.text ≠ "")
    (hr : r.isAbsolute = false) : (p.join r).isAbsolute = false := by
  obtain ⟨c, cs, hcs⟩ := List.exists_cons_of_ne_nil
    (show p.text.toList ≠ [] by rwa [ne_eq, String.toList_eq_nil_iff])
  rw [isAbsolute, hcs] at hp
  rw [join_of_relative hr, isAbsolute, lead]
  split <;> simpa [hcs] using hp

/-- It makes no difference where a path on the way to another one is taken in. -/
theorem join_assoc (hp : p.isAbsolute = false) (hne : p.text ≠ "") (hr : r.isAbsolute = false) :
    (base.join p).join r = base.join (p.join r) := by
  rw [join_of_relative hr, join_of_relative (isAbsolute_join hp hne hr), join_of_relative hp,
    lead_append base.lead hne, join_of_relative hr, String.append_assoc]

/-- What a path mentions it mentions as seen from any directory. -/
theorem mentions_join {fragment : String} (hp : p.isAbsolute = false)
    (h : p.mentions fragment = true) : (base.join p).mentions fragment = true := by
  rw [mentions, holds_eq_true_iff] at h ⊢
  obtain ⟨before, rest, h⟩ := h
  refine ⟨base.lead.toList ++ before, rest, ?_⟩
  rw [join_of_relative hp, String.toList_append, h]
  simp only [List.append_assoc]

/-- A name that may stand between slashes: it holds none, and it stands for itself. -/
def IsName (name : String) : Prop :=
  slash ∉ name.toList ∧ component? name.toList = some (.name name)

/-- Components that only lead down. -/
def Descending (cs : List Component) : Prop := ∀ c ∈ cs, ∃ name, c = .name name ∧ IsName name

theorem mem_steps (h : c ∈ p.steps) : c = .parent ∨ ∃ name, c = .name name ∧ IsName name := by
  obtain ⟨piece, hpiece, hc⟩ := List.mem_filterMap.1 h
  have hslash : slash ∉ piece := notMem_of_mem_pieces hpiece
  have hsome := hc
  rw [component?] at hc
  split at hc
  · cases hc
  · split at hc
    · exact Or.inl (Option.some.inj hc).symm
    · right
      obtain rfl := Option.some.inj hc
      exact ⟨_, rfl, by rwa [String.toList_ofList], by rwa [String.toList_ofList]⟩

theorem descending_steps (h : Component.parent ∉ p.steps) : Descending p.steps := by
  intro c hc
  obtain rfl | hname := mem_steps hc
  · exact (h hc).elim
  · exact hname

theorem IsName.text_ne {name : String} (h : IsName name) : name ≠ "" := by
  rintro rfl
  simp [IsName, component?] at h

theorem IsName.relative {name : String} (h : IsName name) :
    (⟨name⟩ : Path).isAbsolute = false := by
  rw [isAbsolute, decide_eq_false_iff_not]
  intro hhead
  exact h.1 (List.mem_of_head? hhead)

theorem IsName.steps {name : String} (h : IsName name) :
    (⟨name⟩ : Path).steps = [.name name] := by
  rw [Path.steps, pieces, pieces_of_notMem h.1, List.filterMap_cons_some h.2, List.filterMap_nil]

/-- The path that goes from a directory through the given components. -/
def through (base : Path) (cs : List Component) : Path :=
  cs.foldl (fun p c => p.join ⟨c.text⟩) base

theorem through_append (base : Path) (cs ds : List Component) :
    through base (cs ++ ds) = through (through base cs) ds := List.foldl_append

theorem Descending.tail (h : Descending (c :: cs)) : Descending cs := fun d hd =>
  h d (List.mem_cons_of_mem _ hd)

theorem Descending.append (hc : Descending cs) (hd : Descending ds) : Descending (cs ++ ds) := by
  intro c h
  obtain h | h := List.mem_append.1 h
  · exact hc c h
  · exact hd c h

theorem components_through (hb : base.text ≠ "") (h : Descending cs) :
    (through base cs).components = base.components ++ cs ∧ (through base cs).text ≠ "" := by
  induction cs generalizing base with
  | nil => exact ⟨(List.append_nil _).symm, hb⟩
  | cons c cs ih =>
    obtain ⟨name, rfl, hname⟩ := h c List.mem_cons_self
    have hne : (base.join ⟨name⟩).text ≠ "" := by
      rw [join_of_relative hname.relative]
      simp [hname.text_ne]
    obtain ⟨hcomponents, htext⟩ := ih hne h.tail
    refine ⟨?_, htext⟩
    rw [components_join hb hname.relative, hname.steps, List.append_assoc] at hcomponents
    exact hcomponents

theorem through_join (h : Descending cs) (hr : r.isAbsolute = false) :
    (through base cs).join r = base.join ((ofComponents cs).join r) ∧
      ((ofComponents cs).join r).isAbsolute = false := by
  induction cs generalizing base with
  | nil =>
    have hnil : (ofComponents []).join r = r := empty_join hr
    rw [hnil]
    exact ⟨rfl, hr⟩
  | cons c cs ih =>
    obtain ⟨name, rfl, hname⟩ := h c List.mem_cons_self
    obtain ⟨_, hrest⟩ := @ih ⟨""⟩ h.tail
    have hfirst : (ofComponents (.name name :: cs)).join r =
        (⟨name⟩ : Path).join ((ofComponents cs).join r) :=
      (@ih ((⟨""⟩ : Path).join ⟨name⟩) h.tail).1.trans (by rw [empty_join hname.relative])
    rw [hfirst, ← join_assoc hname.relative hname.text_ne hrest]
    exact ⟨(@ih (base.join ⟨name⟩) h.tail).1, isAbsolute_join hname.relative hname.text_ne hrest⟩

theorem components_absolute (h : p.isAbsolute = true) : p.components = .root :: p.steps := by
  obtain ⟨cs, hcs⟩ := List.head?_eq_some_iff.1 (of_decide_eq_true h)
  obtain ⟨piece, rest, hrest⟩ := List.exists_cons_of_ne_nil (pieces_ne_nil slash cs)
  have hpieces : p.pieces = [] :: piece :: rest := by
    rw [pieces, hcs, pieces_cons, hrest, extendPieces, if_pos rfl]
  rw [components_eq, steps, hpieces]
  rfl

theorem foldl_descend (h : Descending cs) (above : List Component) :
    cs.foldl descend above = cs.reverse ++ above := by
  induction cs generalizing above with
  | nil => rfl
  | cons c cs ih =>
    obtain ⟨name, rfl, _⟩ := h c List.mem_cons_self
    rw [List.foldl_cons, ih h.tail, List.reverse_cons, List.append_assoc]
    rfl

/-- From the root one can only go down or stay there. -/
theorem exists_foldl_descend (hcs : ∀ c ∈ cs, c = .parent ∨ ∃ name, c = .name name ∧ IsName name)
    (hds : Descending ds) : ∃ ns, Descending ns ∧
      cs.foldl descend (ds.reverse ++ [.root]) = ns.reverse ++ [.root] := by
  induction cs generalizing ds with
  | nil => exact ⟨ds, hds, rfl⟩
  | cons c cs ih =>
    have hrest : ∀ c ∈ cs, c = .parent ∨ ∃ name, c = .name name ∧ IsName name :=
      fun d hd => hcs d (List.mem_cons_of_mem _ hd)
    obtain rfl | ⟨name, rfl, hname⟩ := hcs c List.mem_cons_self
    · obtain rfl | ⟨above, last, rfl⟩ := List.eq_nil_or_concat' ds
      · exact ih hrest hds
      · obtain ⟨name, rfl, _⟩ := hds last (List.mem_append_right _ (List.mem_singleton_self last))
        have hup : descend ((above ++ [Component.name name]).reverse ++ [.root]) .parent =
            above.reverse ++ [.root] := by
          rw [List.reverse_append]
          rfl
        rw [List.foldl_cons, hup]
        exact ih hrest fun d hd => hds d (List.mem_append_left _ hd)
    · have hdown : descend (ds.reverse ++ [.root]) (.name name) =
          (ds ++ [Component.name name]).reverse ++ [.root] := by
        rw [List.reverse_append]
        rfl
      rw [List.foldl_cons, hdown]
      refine ih hrest (hds.append ?_)
      intro d hd
      exact ⟨name, List.mem_singleton.1 hd, hname⟩

theorem clean_of_foldl (h : p.components.foldl descend [] = cs.reverse ++ [.root]) :
    p.clean = through ⟨"/"⟩ cs := by
  have hreverse : (cs.reverse ++ [Component.root]).reverse = .root :: cs := by simp
  rw [clean, h]
  split
  · simp at *
  · rw [hreverse]
    rfl

theorem exists_clean (h : p.isAbsolute = true) :
    ∃ cs, Descending cs ∧ p.clean = through ⟨"/"⟩ cs := by
  have hnone : Descending [] := fun c hc => by cases hc
  obtain ⟨cs, hcs, hfold⟩ := exists_foldl_descend (fun c hc => mem_steps (p := p) hc) hnone
  refine ⟨cs, hcs, clean_of_foldl ?_⟩
  rw [components_absolute h]
  exact hfold

/-- What is cleaned below a clean directory is what lies below it. -/
theorem clean_join (habsolute : base.isAbsolute = true) (hclean : base.clean = base)
    (hp : p.isAbsolute = false) (hparent : Component.parent ∉ p.steps) :
    (base.join p).clean = through base p.steps := by
  obtain ⟨cs, hcs, hbase⟩ := exists_clean habsolute
  have hp' := descending_steps hparent
  rw [hclean] at hbase
  have hroot : (⟨"/"⟩ : Path).text ≠ "" := by decide
  obtain ⟨hcomponents, htext⟩ := components_through hroot hcs
  rw [hbase, ← through_append]
  apply clean_of_foldl
  rw [components_join htext hp, hcomponents, List.append_assoc]
  exact foldl_descend (hcs.append hp') [.root]

/-- A leading dot is all that a relative path may hold besides its steps. -/
theorem components_relative (h : p.isAbsolute = false) :
    p.components = p.steps ∨ p.components = .current :: p.steps := by
  rw [components_eq, steps, pieces]
  cases hcs : p.text.toList with
  | nil => exact Or.inl rfl
  | cons c cs =>
    obtain ⟨first, rest, hrest⟩ := List.exists_cons_of_ne_nil (pieces_ne_nil slash cs)
    have hc : c ≠ slash := by
      rintro rfl
      simp [isAbsolute, hcs] at h
    rw [pieces_cons, hrest, extendPieces, if_neg hc]
    by_cases hdot : c :: first = ['.']
    · right
      rw [hdot]
      rfl
    · exact Or.inl (placed_cons (List.cons_ne_nil c first) hdot rest)

theorem mem_components_of_mem_steps (hp : p.isAbsolute = false) (hc : c ∈ p.steps) :
    c ∈ p.components := by
  obtain h | h := components_relative hp
  · rwa [h]
  · rw [h]
    exact List.mem_cons_of_mem _ hc

/-- The name of a file is the same from wherever the file is seen. -/
theorem fileName?_join (hb : base.text ≠ "") (hp : p.isAbsolute = false)
    (hsteps : p.steps ≠ []) : (base.join p).fileName? = p.fileName? := by
  have hlast : (base.join p).components.getLast? = p.components.getLast? := by
    rw [components_join hb hp]
    obtain h | h := components_relative hp
    · rw [h, List.getLast?_append_of_ne_nil _ hsteps]
    · rw [h, List.getLast?_append_of_ne_nil _ hsteps, ← List.singleton_append,
        List.getLast?_append_of_ne_nil _ hsteps]
  rw [fileName?, fileName?, hlast]

theorem compareLex_append_left (cs ds es : List Component) :
    List.compareLex Component.order (cs ++ ds) (cs ++ es) =
      List.compareLex Component.order ds es := by
  induction cs with
  | nil => rfl
  | cons c cs ih =>
    have hself : Component.order c c = .eq := Std.ReflCmp.compare_self
    rw [List.cons_append, List.cons_append, List.compareLex_cons_cons, hself, Ordering.eq_then, ih]

/-- Whether a relative path comes before another one, seen from the same directory. -/
def stepsLE (p q : Path) : Bool := (List.compareLex Component.order p.steps q.steps).isLE

theorem stepsLE_trans (p q r : Path) (h : p.stepsLE q = true) (h' : q.stepsLE r = true) :
    p.stepsLE r = true := Std.TransCmp.isLE_trans h h'

theorem stepsLE_total (p q : Path) : (p.stepsLE q || q.stepsLE p) = true := by
  have hs : List.compareLex Component.order p.steps q.steps =
      (List.compareLex Component.order q.steps p.steps).swap := Std.OrientedCmp.eq_swap
  rw [stepsLE, stepsLE, hs]
  cases List.compareLex Component.order q.steps p.steps <;> rfl

/-- Files below one directory come in the order of what they add to it. -/
theorem order_join (hb : base.text ≠ "") (hp : p.isAbsolute = false) (hq : q.isAbsolute = false) :
    ((base.join p).order (base.join q)).isLE = p.stepsLE q := by
  rw [order, components_join hb hp, components_join hb hq, compareLex_append_left, stepsLE]

theorem join_injective (hp : p.isAbsolute = false) (hq : q.isAbsolute = false)
    (h : base.join p = base.join q) : p = q := by
  rw [join_of_relative hp, join_of_relative hq, Path.mk.injEq, String.append_right_inj] at h
  cases p
  cases q
  exact congrArg Path.mk h

end DependencyAudit.Path
