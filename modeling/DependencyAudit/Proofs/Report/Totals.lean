import DependencyAudit.Proofs.Report.Layout
import DependencyAudit.Report.Listing
import Mathlib.Algebra.GroupWithZero.Nat
import Mathlib.Data.List.Nodup

/-!
The totals of a printed table. The labels tell the kinds apart and all of them are counted, so that
each finding is counted once and the numbers in the summary add up to the one above the table.
-/
namespace DependencyAudit

theorem FindingKind.label_injective : Function.Injective label := by
  intro kind other h
  cases kind <;> cases other <;> simp_all [label]

theorem FindingKind.mem_all (kind : FindingKind) : kind ∈ all := by
  cases kind <;> decide

theorem Finding.label_eq_iff {f : Finding} {kind : FindingKind} :
    f.label = kind.label ↔ f.kind = kind :=
  FindingKind.label_injective.eq_iff

namespace Report

variable {fs : List Finding} {block : List (List Char)} {number : Nat} {b c d : String}

/-- A row shows the number in its first line, and in the lines below it none. -/
def Numbered (number : Nat) (row : List (List Char)) : Prop :=
  ∃ first rest, row = first :: rest ∧
    Fitted 6 (toString number ++ ".").toList (first.take 6) ∧
    ∀ line ∈ rest, line.take 6 = List.replicate 6 ' '

theorem eq_blanks_of_fitted {width : Nat} {shown : List Char} (h : Fitted width [] shown) :
    shown = List.replicate width ' ' := by
  obtain ⟨hlength, n, rfl⟩ := h
  rw [List.take_nil, List.nil_append] at hlength ⊢
  rw [List.length_replicate] at hlength
  rw [hlength]

/-- In the first column a row shows the first of its cells. -/
theorem Row.fitted_first {a : String} (h : Row [a, b, c, d] block) {j : Nat} {line : List Char}
    (hline : block[j]? = some line) : Fitted 6 (lineOf a j) (line.take 6) := by
  cases h.columns j line hline with
  | cons hfirst _ => exact hfirst

theorem Row.numbered (h : Row [toString number ++ ".", b, c, d] block) : Numbered number block := by
  cases block with
  | nil => exact absurd h.nonempty (by decide)
  | cons first rest =>
    refine ⟨first, rest, rfl, ?_, ?_⟩
    · have hfirst := h.fitted_first (j := 0) rfl
      rwa [lineOf, lines_number] at hfirst
    · intro line hline
      obtain ⟨j, hj⟩ := List.mem_iff_getElem?.1 hline
      have hrest := h.fitted_first (j := j + 1) hj
      rw [lineOf, lines_number] at hrest
      exact eq_blanks_of_fitted hrest

theorem forall₂_numbered (number : Nat) (fs : List Finding) :
    List.Forall₂ Numbered (List.range' number fs.length)
      ((rows number fs).map fun row => row.map String.toList) := by
  induction fs generalizing number with
  | nil => exact .nil
  | cons f fs ih => exact .cons (row_cells number f).numbered (ih (number + 1))

/-! Counts -/

theorem countedLabels_eq : countedLabels = FindingKind.all.map FindingKind.label := rfl

theorem count_label (kind : FindingKind) (fs : List Finding) :
    count kind.label fs = fs.countP (·.kind = kind) := by
  simp only [count, Finding.label_eq_iff, List.countP_eq_length_filter]

/-- The kinds that occur, in the order in which they are counted. -/
def occurring (fs : List Finding) : List FindingKind :=
  FindingKind.all.filter fun kind => ∃ f ∈ fs, f.kind = kind

theorem countP_pos_iff {kind : FindingKind} :
    0 < fs.countP (·.kind = kind) ↔ ∃ f ∈ fs, f.kind = kind := by
  simp [List.countP_pos_iff]

theorem countLines_plain (fs : List Finding) :
    countLines false fs = (occurring fs).map fun kind =>
      "  " ++ kind.label ++ ": " ++ toString (fs.countP (·.kind = kind)) := by
  rw [countLines, countedLabels_eq, List.filter_map, List.map_map, occurring]
  simp only [Function.comp_def, count_label, countP_pos_iff, paint, Bool.false_eq_true, if_false]

/-- A finding has one of the kinds. -/
theorem sum_countP_all (fs : List Finding) :
    (FindingKind.all.map fun kind => fs.countP (·.kind = kind)).sum = fs.length := by
  induction fs with
  | nil => rfl
  | cons f fs ih =>
    simp only [FindingKind.all, List.map_cons, List.map_nil, List.sum_cons, List.sum_nil,
      List.countP_cons, List.length_cons] at ih ⊢
    cases f.kind <;> simp <;> omega

/-- Kinds that do not occur add nothing. -/
theorem sum_countP_occurring (fs : List Finding) :
    ((occurring fs).map fun kind => fs.countP (·.kind = kind)).sum = fs.length := by
  rw [← sum_countP_all fs, occurring]
  induction FindingKind.all with
  | nil => rfl
  | cons kind kinds ih =>
    rw [List.filter_cons, List.map_cons, List.sum_cons, ← ih]
    split
    · rw [List.map_cons, List.sum_cons]
    · rename_i hnone
      rw [decide_eq_true_eq, ← countP_pos_iff, Nat.not_lt, Nat.le_zero] at hnone
      rw [hnone, Nat.zero_add]

theorem nodup_occurring (fs : List Finding) : (occurring fs).Nodup :=
  List.Nodup.filter _ (by decide)

theorem count_occurring {f : Finding} (hf : f ∈ fs) : (occurring fs).count f.kind = 1 := by
  have hmem : f.kind ∈ occurring fs :=
    List.mem_filter.2 ⟨FindingKind.mem_all f.kind, decide_eq_true ⟨f, hf, rfl⟩⟩
  exact List.count_eq_one_of_mem (nodup_occurring fs) hmem

/-- Without colour the printed table is the number of findings, the table and the summary. -/
theorem printTable_plain (h : fs ≠ []) :
    printTable false fs =
      "Number of errors found: " ++ toString fs.length ++ "\n\n" ++ table fs ++ "\n\nSummary\n" ++
        String.join ((countLines false fs).map line) := by
  have hempty : fs.isEmpty = false := by simpa using h
  have hhead : "\n\n" = "\n" ++ "\n" := rfl
  have hsummary : "\n\nSummary\n" = "\n" ++ "\n" ++ ("Summary" ++ "\n") := rfl
  rw [printTable, hempty, hhead, hsummary]
  simp only [header, line, paint, Bool.false_eq_true, if_false, String.append_assoc]

/-- The printed table tells the number of the findings, has so many numbered rows, and a summary with
one line for each kind that occurs, in the order of the kinds. Each finding is counted in one of
them, whether kinds or labels are counted, so that the numbers add up. -/
theorem printTable_totals (fs : List Finding) (h : fs ≠ []) :
    let kinds : List FindingKind :=
      [.missing, .unused, .redundantImport, .redundantDependency].filter fun kind =>
        ∃ f ∈ fs, f.kind = kind
    let number : FindingKind → Nat := fun kind => fs.countP (·.kind = kind)
    let separator := List.replicate 120 '-'
    printTable false fs =
      "Number of errors found: " ++ toString fs.length ++ "\n\n" ++ table fs ++ "\n\nSummary\n" ++
        String.join (kinds.map fun kind =>
          "  " ++ kind.label ++ ": " ++ toString (number kind) ++ "\n") ∧
    (∃ (heading : List Char) (rows : List (List (List Char))),
      (table fs).toList.splitOn '\n' =
        separator :: heading :: separator :: rows.flatMap (fun row => row ++ [separator]) ∧
      separator ∉ heading :: rows.flatten ∧
      List.Forall₂ Numbered (List.range' 1 fs.length) rows) ∧
    kinds.Nodup ∧ (∀ f ∈ fs, kinds.count f.kind = 1) ∧
    (∀ kind, number kind = fs.countP (·.label = kind.label)) ∧
    (kinds.map number).sum = fs.length := by
  intro kinds number separator
  refine ⟨?_, ?_, nodup_occurring fs, fun f hf => count_occurring hf, ?_, sum_countP_occurring fs⟩
  · rw [printTable_plain h, countLines_plain, List.map_map]
    rfl
  · exact ⟨headingLine.toList, blocks fs, splitOn_table_eq_blocks fs, separator_notMem_lines fs,
      forall₂_numbered 1 fs⟩
  · intro kind
    simp only [number, Finding.label_eq_iff]

/-- Two kinds occur, and the one that is counted first is found last. -/
theorem printTable_totals_mixed :
    let found : SourceImport := ⟨⟨"S/f.swift"⟩, 3, "import Net", "Net"⟩
    let fs : List Finding :=
      [.redundantImport "T" found, .redundantImport "U" found, .missing "U" found]
    fs ≠ [] ∧
      printTable false fs = "Number of errors found: 3\n\n" ++ table fs ++ "\n\nSummary\n" ++
        "  Missing Dependency: 1\n  Redundant Import: 2\n" := by
  intro found fs
  have hne : fs ≠ [] := List.cons_ne_nil _ _
  have hhead : "Number of errors found: " ++ toString fs.length ++ "\n\n" =
      "Number of errors found: 3\n\n" := by decide
  have hlines : String.join ((([.missing, .unused, .redundantImport, .redundantDependency] :
      List FindingKind).filter fun kind => ∃ f ∈ fs, f.kind = kind).map fun kind =>
        "  " ++ kind.label ++ ": " ++ toString (fs.countP (·.kind = kind)) ++ "\n") =
      "  Missing Dependency: 1\n  Redundant Import: 2\n" := by decide
  rw [(printTable_totals fs hne).1, hlines, hhead]
  exact ⟨hne, rfl⟩

end Report

end DependencyAudit
