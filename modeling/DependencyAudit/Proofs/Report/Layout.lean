import DependencyAudit.Proofs.Text.Lines
import DependencyAudit.Report.Table
import Mathlib.Data.List.Forall2

/-!
The layout of the table. Each finding has a row as high as its highest cell, all lines of rows are
of one width that no separator has, and no cell can break a line, so that the table is told by its
lines.
-/
namespace DependencyAudit.Report

variable {fs : List Finding} {texts : List String} {block : List (List Char)} {a b c d : String}

/-- What a column shows of a text: its beginning, filled up with blanks to the width. -/
def Fitted (width : Nat) (text shown : List Char) : Prop :=
  shown.length = width ∧ ∃ n, shown = text.take width ++ List.replicate n ' '

/-- A line of a cell, which is empty below its last one. -/
def lineOf (cell : String) (j : Nat) : List Char := ((Text.lines cell)[j]?.getD "").toList

/-- A line of a row, cut between its columns. -/
def cut (line : List Char) : List (List Char) :=
  [line.take 6, (line.drop 6).take 40, (line.drop 46).take 25, line.drop 71]

/-- The lines are the row of the cells: as many as the highest cell has, and each with the lines of
all cells of its height beside each other. -/
structure Row (texts : List String) (block : List (List Char)) : Prop where
  nonempty : 1 ≤ block.length
  highest : ∀ cell ∈ texts, (Text.lines cell).length ≤ block.length
  reached : ∃ cell ∈ texts, (Text.lines cell).length = block.length
  width : ∀ line ∈ block, line.length = 121
  columns : ∀ j line, block[j]? = some line →
    List.Forall₂ (fun column shown => Fitted column.2 (lineOf column.1 j) shown)
      (texts.zip [6, 40, 25, 50]) (cut line)

/-! Cells -/

theorem toList_fit (width : Nat) (cell : String) :
    (fit width cell).toList =
      cell.toList.take width ++ List.replicate (width - (cell.toList.take width).length) ' ' := by
  rw [fit, String.toList_ofList]

theorem fitted_fit (width : Nat) (cell : String) :
    Fitted width cell.toList (fit width cell).toList := by
  rw [toList_fit]
  refine ⟨?_, _, rfl⟩
  rw [List.length_append, List.length_replicate]
  have hle : (cell.toList.take width).length ≤ width := List.length_take_le width cell.toList
  omega

theorem notMem_fit {cell : String} (h : '\n' ∉ cell.toList) (width : Nat) :
    '\n' ∉ (fit width cell).toList := by
  rw [toList_fit, List.mem_append, not_or]
  refine ⟨fun hmem => h (List.mem_of_mem_take hmem), ?_⟩
  intro hmem
  exact absurd (List.eq_of_mem_replicate hmem) (by decide)

theorem notMem_lineOf (cell : String) (j : Nat) : '\n' ∉ lineOf cell j := by
  rw [lineOf]
  cases hj : (Text.lines cell)[j]? with
  | none => exact List.not_mem_nil
  | some line => exact Text.notMem_of_mem_lines (List.mem_of_getElem? hj)

/-! Rows -/

/-- The four columns of a line of a row. -/
theorem toList_rowLine (a b c d : String) (j : Nat) :
    (rowLine ([a, b, c, d].map Text.lines) j).toList =
      (fit 6 ((Text.lines a)[j]?.getD "")).toList ++
        ((fit 40 ((Text.lines b)[j]?.getD "")).toList ++
          ((fit 25 ((Text.lines c)[j]?.getD "")).toList ++
            (fit 50 ((Text.lines d)[j]?.getD "")).toList)) := by
  simp [rowLine, columns]

theorem cut_append {p q r s : List Char} (hp : p.length = 6) (hq : q.length = 40)
    (hr : r.length = 25) : cut (p ++ (q ++ (r ++ s))) = [p, q, r, s] := by
  have hsecond : (p ++ (q ++ (r ++ s))).drop 6 = q ++ (r ++ s) := List.drop_left' hp
  have hthird : (p ++ (q ++ (r ++ s))).drop 46 = r ++ s := by
    rw [← List.drop_drop (i := 40) (j := 6), hsecond, List.drop_left' hq]
  have hfourth : (p ++ (q ++ (r ++ s))).drop 71 = s := by
    rw [← List.drop_drop (i := 25) (j := 46), hthird, List.drop_left' hr]
  rw [cut, hsecond, hthird, hfourth, List.take_left' hp, List.take_left' hq, List.take_left' hr]

theorem cut_rowLine (a b c d : String) (j : Nat) :
    List.Forall₂ (fun column shown => Fitted column.2 (lineOf column.1 j) shown)
      ([a, b, c, d].zip [6, 40, 25, 50])
      (cut (rowLine ([a, b, c, d].map Text.lines) j).toList) := by
  rw [toList_rowLine, cut_append (fitted_fit _ _).1 (fitted_fit _ _).1 (fitted_fit _ _).1]
  exact .cons (fitted_fit _ _) (.cons (fitted_fit _ _) (.cons (fitted_fit _ _)
    (.cons (fitted_fit _ _) .nil)))

theorem length_rowLine (a b c d : String) (j : Nat) :
    (rowLine ([a, b, c, d].map Text.lines) j).toList.length = 121 := by
  rw [toList_rowLine, List.length_append, List.length_append, List.length_append,
    (fitted_fit _ _).1, (fitted_fit _ _).1, (fitted_fit _ _).1, (fitted_fit _ _).1]

theorem notMem_rowLine (a b c d : String) (j : Nat) :
    '\n' ∉ (rowLine ([a, b, c, d].map Text.lines) j).toList := by
  rw [toList_rowLine, List.mem_append, List.mem_append, List.mem_append]
  rintro (h | h | h | h)
  · exact notMem_fit (notMem_lineOf a j) 6 h
  · exact notMem_fit (notMem_lineOf b j) 40 h
  · exact notMem_fit (notMem_lineOf c j) 25 h
  · exact notMem_fit (notMem_lineOf d j) 50 h

theorem length_rowLines (texts : List String) : (rowLines texts).length = rowHeight texts := by
  rw [rowLines, List.length_map, List.length_range]

theorem mem_rowLines {line : String} :
    line ∈ rowLines texts ↔ ∃ j < rowHeight texts, rowLine (texts.map Text.lines) j = line := by
  simp [rowLines]

/-- A row with a line in one of its cells is as high as its highest cell. -/
theorem rowHeight_spec (h : ∃ cell ∈ texts, 1 ≤ (Text.lines cell).length) :
    1 ≤ rowHeight texts ∧ (∀ cell ∈ texts, (Text.lines cell).length ≤ rowHeight texts) ∧
      ∃ cell ∈ texts, (Text.lines cell).length = rowHeight texts := by
  obtain ⟨cell, hcell, hone⟩ := h
  have hne : texts.map (fun cell => (Text.lines cell).length) ≠ [] := by
    intro hnil
    rw [List.map_eq_nil_iff.1 hnil] at hcell
    exact List.not_mem_nil hcell
  obtain ⟨height, hmax⟩ := Option.ne_none_iff_exists'.1 (mt List.max?_eq_none_iff.1 hne)
  obtain ⟨hmem, hle⟩ := List.max?_eq_some_iff.1 hmax
  have hall : ∀ cell ∈ texts, (Text.lines cell).length ≤ height :=
    fun cell hcell => hle _ (List.mem_map_of_mem hcell)
  have hheight : rowHeight texts = height := by
    rw [rowHeight, hmax, Option.getD_some]
    exact Nat.max_eq_left (Nat.le_trans hone (hall cell hcell))
  rw [hheight]
  obtain ⟨top, htop, heq⟩ := List.mem_map.1 hmem
  exact ⟨Nat.le_trans hone (hall cell hcell), hall, top, htop, heq⟩

theorem row_rowLines (h : ∃ cell ∈ [a, b, c, d], 1 ≤ (Text.lines cell).length) :
    Row [a, b, c, d] ((rowLines [a, b, c, d]).map String.toList) := by
  obtain ⟨hpos, hall, hreached⟩ := rowHeight_spec h
  have hlength : ((rowLines [a, b, c, d]).map String.toList).length = rowHeight [a, b, c, d] := by
    rw [List.length_map, length_rowLines]
  refine ⟨hlength ▸ hpos, hlength ▸ hall, hlength ▸ hreached, ?_, ?_⟩
  · intro line hline
    obtain ⟨text, htext, rfl⟩ := List.mem_map.1 hline
    obtain ⟨j, _, rfl⟩ := mem_rowLines.1 htext
    exact length_rowLine a b c d j
  · intro j line hline
    rw [List.getElem?_map, rowLines, List.getElem?_map] at hline
    obtain ⟨text, htext, rfl⟩ := Option.map_eq_some_iff.1 hline
    obtain ⟨k, hk, rfl⟩ := Option.map_eq_some_iff.1 htext
    obtain ⟨_, rfl⟩ := List.getElem?_eq_some_iff.1 hk
    rw [List.getElem_range]
    exact cut_rowLine a b c d j

/-! The table -/

/-- A number and a point are one line. -/
theorem lines_number (n : Nat) : Text.lines (toString n ++ ".") = [toString n ++ "."] := by
  apply Text.lines_of_notMem
  · have hdigits : '\n' ∉ Nat.toDigits 10 n := by
      intro hmem
      have hdigit := Nat.isDigit_of_mem_toDigits (by decide) (by decide) hmem
      exact absurd hdigit (by decide)
    simpa [String.toList_append, Nat.toList_repr] using hdigits
  · intro hempty
    have hchars := congrArg String.toList hempty
    simp [String.toList_append] at hchars

/-- The rows of findings that are counted from a number. -/
def rows (number : Nat) (fs : List Finding) : List (List String) :=
  (fs.zipIdx number).map fun (f, k) => rowLines (cells k f)

theorem rows_cons (number : Nat) (f : Finding) (fs : List Finding) :
    rows number (f :: fs) = rowLines (cells number f) :: rows (number + 1) fs := rfl

theorem bodyLines_eq (number : Nat) (fs : List Finding) :
    bodyLines number fs = (rows number fs).flatMap fun row => row ++ [separator] := by
  induction fs generalizing number with
  | nil => rfl
  | cons f fs ih =>
    rw [bodyLines, ih, rows_cons, List.flatMap_cons, List.append_assoc, List.singleton_append]

theorem row_cells (number : Nat) (f : Finding) :
    Row [toString number ++ ".", f.target, f.label, f.details]
      ((rowLines (cells number f)).map String.toList) := by
  have hnumber : 1 ≤ (Text.lines (toString number ++ ".")).length := by
    rw [lines_number]
    exact Nat.le_refl 1
  exact row_rowLines ⟨_, List.mem_cons_self, hnumber⟩

theorem forall₂_row_rows (number : Nat) (fs : List Finding) :
    List.Forall₂ (fun (f, k) row => Row [toString k ++ ".", f.target, f.label, f.details] row)
      (fs.zipIdx number) ((rows number fs).map (·.map String.toList)) := by
  induction fs generalizing number with
  | nil => exact .nil
  | cons f fs ih => exact .cons (row_cells number f) (ih (number + 1))

theorem toList_separator : separator.toList = List.replicate 120 '-' := by
  rw [separator, String.toList_ofList]
  rfl

/-- The one line of the heading. -/
def headingLine : String := rowLine (["", "TargetName", "Type", "Details"].map Text.lines) 0

theorem rowLines_headings : rowLines ["", "TargetName", "Type", "Details"] = [headingLine] := by
  have hheight : rowHeight ["", "TargetName", "Type", "Details"] = 1 := by decide
  rw [rowLines, hheight]
  rfl

theorem row_headingLine : Row ["", "TargetName", "Type", "Details"] [headingLine.toList] := by
  have hline : 1 ≤ (Text.lines "Type").length := by decide
  have hrow := row_rowLines (a := "") (b := "TargetName") (c := "Type") (d := "Details")
    ⟨"Type", by decide, hline⟩
  rwa [rowLines_headings] at hrow

theorem tableLines_eq (fs : List Finding) :
    tableLines fs = separator :: headingLine :: separator ::
      (rows 1 fs).flatMap fun row => row ++ [separator] := by
  rw [tableLines, bodyLines_eq]
  exact congrArg (fun lines => separator :: lines ++ _) rowLines_headings

/-- A line of the table is a separator or belongs to the heading or to a row. -/
theorem mem_tableLines {line : String} (h : line ∈ tableLines fs) :
    line = separator ∨ ∃ a b c d j, line = rowLine ([a, b, c, d].map Text.lines) j := by
  rw [tableLines_eq, List.mem_cons, List.mem_cons, List.mem_cons, List.mem_flatMap] at h
  obtain rfl | rfl | rfl | ⟨row, hrow, h⟩ := h
  · exact Or.inl rfl
  · exact Or.inr ⟨_, _, _, _, _, rfl⟩
  · exact Or.inl rfl
  · obtain h | h := List.mem_append.1 h
    · obtain ⟨x, _, rfl⟩ := List.mem_map.1 hrow
      obtain ⟨j, _, rfl⟩ := mem_rowLines.1 h
      exact Or.inr ⟨_, _, _, _, _, rfl⟩
    · exact Or.inl (List.mem_singleton.1 h)

theorem notMem_tableLines {line : String} (h : line ∈ tableLines fs) : '\n' ∉ line.toList := by
  obtain rfl | ⟨a, b, c, d, j, rfl⟩ := mem_tableLines h
  · rw [toList_separator]
    exact fun hmem => absurd (List.eq_of_mem_replicate hmem) (by decide)
  · exact notMem_rowLine a b c d j

/-- Between the line feeds of the table stand its lines. -/
theorem splitOn_table (fs : List Finding) :
    (table fs).toList.splitOn '\n' = (tableLines fs).map String.toList := by
  have hfeeds : ∀ line ∈ (tableLines fs).map String.toList, '\n' ∉ line := by
    intro line hline
    obtain ⟨text, htext, rfl⟩ := List.mem_map.1 hline
    exact notMem_tableLines htext
  rw [table, String.toList_intercalate]
  exact List.splitOn_intercalate '\n' hfeeds (by simp [tableLines])

/-- The rows of the findings of a table, line by line. -/
def blocks (fs : List Finding) : List (List (List Char)) :=
  (rows 1 fs).map fun row => row.map String.toList

theorem splitOn_table_eq_blocks (fs : List Finding) :
    (table fs).toList.splitOn '\n' =
      List.replicate 120 '-' :: headingLine.toList :: List.replicate 120 '-' ::
        (blocks fs).flatMap fun row => row ++ [List.replicate 120 '-'] := by
  rw [splitOn_table, tableLines_eq, blocks, List.flatMap_map, ← toList_separator]
  simp [List.map_flatMap]

theorem Row.separator_notMem (h : Row texts block) : List.replicate 120 '-' ∉ block := by
  intro hmem
  have hwidth := h.width _ hmem
  rw [List.length_replicate] at hwidth
  omega

theorem row_of_mem_blocks (h : block ∈ blocks fs) : ∃ texts, Row texts block := by
  obtain ⟨row, hrow, rfl⟩ := List.mem_map.1 h
  obtain ⟨x, _, rfl⟩ := List.mem_map.1 hrow
  exact ⟨_, row_cells x.2 x.1⟩

theorem count_flatMap_separated {groups : List (List (List Char))} {sep : List Char}
    (h : ∀ g ∈ groups, sep ∉ g) :
    (groups.flatMap fun g => g ++ [sep]).count sep = groups.length := by
  induction groups with
  | nil => rfl
  | cons g groups ih =>
    have hg : g.count sep = 0 := List.count_eq_zero.2 (h g List.mem_cons_self)
    rw [List.flatMap_cons, List.count_append, List.count_append, hg, List.count_singleton_self,
      ih fun k hk => h k (List.mem_cons_of_mem g hk), List.length_cons]
    omega

theorem length_blocks (fs : List Finding) : (blocks fs).length = fs.length := by
  simp [blocks, rows]

theorem separator_notMem_lines (fs : List Finding) :
    List.replicate 120 '-' ∉ headingLine.toList :: (blocks fs).flatten := by
  rw [List.mem_cons, not_or, List.mem_flatten]
  constructor
  · exact mt List.mem_singleton.2 row_headingLine.separator_notMem
  · rintro ⟨block, hblock, hmem⟩
    obtain ⟨texts, hrow⟩ := row_of_mem_blocks hblock
    exact hrow.separator_notMem hmem

theorem count_separator (fs : List Finding) :
    ((table fs).toList.splitOn '\n').count (List.replicate 120 '-') = fs.length + 2 := by
  have hnot := separator_notMem_lines fs
  rw [List.mem_cons, not_or] at hnot
  have hblocks : ∀ block ∈ blocks fs, List.replicate 120 '-' ∉ block :=
    fun block hblock hmem => hnot.2 (List.mem_flatten.2 ⟨block, hblock, hmem⟩)
  rw [splitOn_table_eq_blocks, List.count_cons_self, List.count_cons_of_ne (Ne.symm hnot.1),
    List.count_cons_self, count_flatMap_separated hblocks, length_blocks]

/-- Cut at its line feeds the table is a heading of one line and a row for each finding in turn, with
a separator before the heading, after it and after each row. The rows show the number, the target,
the label and the details of their findings, and no line of them is a separator. -/
theorem table_layout (fs : List Finding) :
    let separator := List.replicate 120 '-'
    ∃ (heading : List Char) (rows : List (List (List Char))),
      (table fs).toList.splitOn '\n' =
        separator :: heading :: separator :: rows.flatMap (fun row => row ++ [separator]) ∧
      Row ["", "TargetName", "Type", "Details"] [heading] ∧
      List.Forall₂ (fun (f, number) row =>
        Row [toString number ++ ".", f.target, f.label, f.details] row) (fs.zipIdx 1) rows ∧
      separator ∉ heading :: rows.flatten ∧
      ((table fs).toList.splitOn '\n').count separator = fs.length + 2 := by
  intro separator
  exact ⟨headingLine.toList, blocks fs, splitOn_table_eq_blocks fs, row_headingLine,
    forall₂_row_rows 1 fs, separator_notMem_lines fs, count_separator fs⟩

end DependencyAudit.Report
