import DependencyAudit.Text.Lines
import Mathlib.Data.List.Basic

/-!
The lines of a text. A line holds no line feed, and a text without line feeds is its only line. How
the lines of a text file are ended makes no difference, nor does a byte order mark in front of them.
-/
namespace DependencyAudit.Text

variable {sep c : Char} {cs line piece : List Char} {ps ls : List (List Char)}
  {text : String}

theorem pieces_cons (sep c : Char) (cs : List Char) :
    pieces sep (c :: cs) = extendPieces sep c (pieces sep cs) := rfl

theorem notMem_extendPieces (h : ∀ piece ∈ ps, sep ∉ piece) (hp : piece ∈ extendPieces sep c ps) :
    sep ∉ piece := by
  cases ps with
  | nil =>
    rw [extendPieces] at hp
    split at hp
    · simp_all
    · rename_i hc
      rw [List.mem_singleton.1 hp, List.mem_singleton]
      exact Ne.symm hc
  | cons first rest =>
    rw [extendPieces] at hp
    split at hp
    · obtain rfl | hp := List.mem_cons.1 hp
      · exact List.not_mem_nil
      · exact h piece hp
    · rename_i hc
      obtain rfl | hp := List.mem_cons.1 hp
      · exact List.not_mem_cons_of_ne_of_not_mem (Ne.symm hc) (h first List.mem_cons_self)
      · exact h piece (List.mem_cons_of_mem _ hp)

theorem notMem_of_mem_pieces (h : piece ∈ pieces sep cs) : sep ∉ piece := by
  induction cs generalizing piece with
  | nil =>
    rw [List.mem_singleton.1 h]
    exact List.not_mem_nil
  | cons c cs ih => exact notMem_extendPieces (fun _ => ih) h

theorem pieces_of_notMem (h : sep ∉ cs) : pieces sep cs = [cs] := by
  induction cs with
  | nil => rfl
  | cons c cs ih =>
    rw [List.mem_cons, not_or] at h
    rw [pieces_cons, ih h.2, extendPieces, if_neg (Ne.symm h.1)]

theorem pieces_ne_nil (sep : Char) (cs : List Char) : pieces sep cs ≠ [] := by
  cases cs with
  | nil => exact List.cons_ne_nil _ _
  | cons c cs =>
    rw [pieces_cons]
    cases pieces sep cs <;> rw [extendPieces] <;> split <;> exact List.cons_ne_nil _ _

/-- A separator ends a piece. -/
theorem pieces_append (sep : Char) (cs rest : List Char) :
    pieces sep (cs ++ sep :: rest) = pieces sep cs ++ pieces sep rest := by
  induction cs with
  | nil =>
    obtain ⟨p, ps, hps⟩ := List.exists_cons_of_ne_nil (pieces_ne_nil sep rest)
    rw [List.nil_append, pieces_cons, hps, extendPieces, if_pos rfl]
    rfl
  | cons c cs ih =>
    obtain ⟨p, ps, hps⟩ := List.exists_cons_of_ne_nil (pieces_ne_nil sep cs)
    rw [List.cons_append, pieces_cons, ih, pieces_cons, hps, List.cons_append, extendPieces,
      extendPieces]
    split <;> rfl

theorem dropReturn_sublist (line : List Char) : (dropReturn line).Sublist line := by
  rw [dropReturn]
  split
  · exact List.dropLast_sublist line
  · exact List.Sublist.refl line

theorem notMem_of_mem_lineList (h : line ∈ lineList cs) : lineFeed ∉ line := by
  rw [lineList, List.mem_append] at h
  obtain h | h := h
  · obtain ⟨piece, hp, rfl⟩ := List.mem_map.1 h
    exact mt (dropReturn_sublist piece).mem
      (notMem_of_mem_pieces (List.dropLast_subset _ hp))
  · have hlast := (Option.filter_eq_some_iff.1 (Option.mem_toList.1 h)).1
    exact notMem_of_mem_pieces (List.mem_of_getLast? hlast)

theorem lineList_of_notMem (h : lineFeed ∉ cs) (hne : cs ≠ []) : lineList cs = [cs] := by
  rw [lineList, pieces_of_notMem h]
  simp [hne]

theorem notMem_of_mem_lines {line : String} (h : line ∈ lines text) : '\n' ∉ line.toList := by
  obtain ⟨cs, hcs, rfl⟩ := List.mem_map.1 h
  rw [String.toList_ofList]
  exact notMem_of_mem_lineList hcs

theorem lines_of_notMem (h : '\n' ∉ text.toList) (hne : text ≠ "") : lines text = [text] := by
  have hchars : text.toList ≠ [] := by
    rwa [ne_eq, String.toList_eq_nil_iff]
  rw [lines, lineList_of_notMem h hchars, List.map_singleton, String.ofList_toList]

/-- What ends a line of a text. -/
inductive Ending : List Char → Prop
  | feed : Ending [lineFeed]
  | returnFeed : Ending [carriageReturn, lineFeed]

/-- A text of the given lines: each of them is ended in its own way, and the last one need not be
ended if it is not empty. -/
inductive TextOf : List (List Char) → List Char → Prop
  | nil : TextOf [] []
  | unended {line : List Char} : line ≠ [] → TextOf [line] line
  | ended {line ending cs : List Char} {lines : List (List Char)} :
    Ending ending → TextOf lines cs → TextOf (line :: lines) (line ++ ending ++ cs)

/-- What can stand on a line, so that nothing of it is taken for its end. -/
structure IsLine (line : List Char) : Prop where
  feed : lineFeed ∉ line
  last : line.getLast? ≠ some carriageReturn

theorem IsLine.dropReturn (h : IsLine line) : Text.dropReturn line = line := if_neg h.last

theorem dropReturn_append (line : List Char) : dropReturn (line ++ [carriageReturn]) = line := by
  rw [dropReturn, if_pos List.getLast?_concat, List.dropLast_concat]

/-- The line that a piece is, and what ends it. -/
theorem exists_ending (piece : List Char) :
    ∃ ending, Ending ending ∧ piece ++ [lineFeed] = dropReturn piece ++ ending := by
  by_cases h : piece.getLast? = some carriageReturn
  · obtain ⟨line, rfl⟩ := List.getLast?_eq_some_iff.1 h
    refine ⟨_, .returnFeed, ?_⟩
    rw [dropReturn_append, List.append_assoc]
    rfl
  · refine ⟨_, .feed, ?_⟩
    rw [dropReturn, if_neg h]

theorem lineList_append (h : lineFeed ∉ piece) (cs : List Char) :
    lineList (piece ++ lineFeed :: cs) = dropReturn piece :: lineList cs := by
  obtain ⟨p, ps, hps⟩ := List.exists_cons_of_ne_nil (pieces_ne_nil lineFeed cs)
  rw [lineList, lineList, pieces_append, pieces_of_notMem h, hps]
  simp

/-- A text is one of its own lines. -/
theorem textOf_lineList (cs : List Char) : TextOf (lineList cs) cs := by
  by_cases h : lineFeed ∈ cs
  · obtain ⟨piece, rest, hcs, hpiece⟩ := List.eq_append_cons_of_mem h
    obtain ⟨ending, hending, heq⟩ := exists_ending piece
    have hlt : rest.length < cs.length := by
      rw [hcs, List.length_append, List.length_cons]
      omega
    have hrest : TextOf (lineList rest) rest := textOf_lineList rest
    rw [hcs, lineList_append hpiece, List.append_cons, heq]
    exact .ended hending hrest
  · by_cases hne : cs = []
    · rw [hne]
      exact .nil
    · rw [lineList_of_notMem h hne]
      exact .unended hne
termination_by cs.length
decreasing_by exact hlt

/-- The lines of a text are found again, however they are ended. -/
theorem TextOf.lineList_eq (h : TextOf ls cs) (hl : ∀ line ∈ ls, IsLine line) :
    lineList cs = ls := by
  induction h with
  | nil => rfl
  | unended hne => exact lineList_of_notMem (hl _ (List.mem_singleton_self _)).feed hne
  | @ended line ending cs ls hending _ ih =>
    have hline := hl line List.mem_cons_self
    have hrest := ih fun line hmem => hl line (List.mem_cons_of_mem _ hmem)
    cases hending with
    | feed =>
      rw [List.append_assoc, List.singleton_append, lineList_append hline.feed, hline.dropReturn,
        hrest]
    | returnFeed =>
      have hreturn : lineFeed ∉ line ++ [carriageReturn] := by
        rw [List.mem_append, List.mem_singleton, not_or]
        exact ⟨hline.feed, by decide⟩
      have hsplit : line ++ [carriageReturn, lineFeed] ++ cs =
          line ++ [carriageReturn] ++ lineFeed :: cs := by simp
      rw [hsplit, lineList_append hreturn, dropReturn_append, hrest]

theorem lineList_eq_iff (hl : ∀ line ∈ ls, IsLine line) : lineList cs = ls ↔ TextOf ls cs := by
  constructor
  · rintro rfl
    exact textOf_lineList cs
  · intro h
    exact h.lineList_eq hl

theorem lines_eq_iff {ls : List String} (hl : ∀ line ∈ ls, IsLine line.toList) :
    lines text = ls ↔ TextOf (ls.map String.toList) text.toList := by
  have hchars : ∀ line ∈ ls.map String.toList, IsLine line := by
    simpa [List.mem_map] using hl
  rw [← lineList_eq_iff hchars, lines]
  constructor
  · rintro rfl
    simp
  · intro h
    simp [h]

/-- A byte order mark. -/
def mark : String := String.singleton byteOrderMark

theorem fileLines_marked (text : String) : fileLines (mark ++ text) = lines text := by
  rw [fileLines, mark, String.toList_append, String.toList_singleton, List.singleton_append,
    dropMark, if_pos rfl, lines]

theorem fileLines_unmarked (h : text.toList.head? ≠ some byteOrderMark) :
    fileLines text = lines text := by
  rw [fileLines, lines]
  cases hc : text.toList with
  | nil => rfl
  | cons c cs =>
    rw [hc, List.head?_cons, ne_eq, Option.some.injEq] at h
    rw [dropMark, if_neg h]

/-- The content of a text file with the given lines: a text of them, with or without a byte order
mark in front. -/
inductive FileOf (ls : List String) : String → Prop
  | unmarked {text : String} : TextOf (ls.map String.toList) text.toList → FileOf ls text
  | marked {text : String} : TextOf (ls.map String.toList) text.toList → FileOf ls (mark ++ text)

/-- The first line does not begin with a byte order mark of its own. -/
def Unmarked (ls : List String) : Prop :=
  ∀ line, ls.head? = some line → line.toList.head? ≠ some byteOrderMark

theorem eq_mark_append (h : text.toList.head? = some byteOrderMark) :
    ∃ rest, text = mark ++ rest := by
  obtain ⟨cs, hcs⟩ := List.head?_eq_some_iff.1 h
  refine ⟨String.ofList cs, String.toList_injective ?_⟩
  rw [hcs, mark, String.toList_append, String.toList_singleton, String.toList_ofList,
    List.singleton_append]

/-- A text begins with a byte order mark only if its first line does. -/
theorem TextOf.head?_ne_mark (h : TextOf ls cs)
    (hm : ∀ line, ls.head? = some line → line.head? ≠ some byteOrderMark) :
    cs.head? ≠ some byteOrderMark := by
  cases h with
  | nil => exact (Option.some_ne_none _).symm
  | unended _ => exact hm _ rfl
  | @ended line ending cs ls hending _ =>
    cases line with
    | nil => cases hending <;> simp [lineFeed, carriageReturn, byteOrderMark]
    | cons c line => exact hm (c :: line) rfl

theorem fileLines_eq_iff {ls : List String} {content : String}
    (hl : ∀ line ∈ ls, IsLine line.toList) (hm : Unmarked ls) :
    fileLines content = ls ↔ FileOf ls content := by
  constructor
  · intro h
    by_cases hc : content.toList.head? = some byteOrderMark
    · obtain ⟨rest, rfl⟩ := eq_mark_append hc
      rw [fileLines_marked] at h
      exact .marked ((lines_eq_iff hl).1 h)
    · rw [fileLines_unmarked hc] at h
      exact .unmarked ((lines_eq_iff hl).1 h)
  · rintro (htext | htext)
    · have hhead : content.toList.head? ≠ some byteOrderMark := by
        apply htext.head?_ne_mark
        intro line hline
        rw [List.head?_map, Option.map_eq_some_iff] at hline
        obtain ⟨first, hfirst, rfl⟩ := hline
        exact hm first hfirst
      rw [fileLines_unmarked hhead]
      exact (lines_eq_iff hl).2 htext
    · rw [fileLines_marked]
      exact (lines_eq_iff hl).2 htext

end DependencyAudit.Text
