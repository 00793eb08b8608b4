import DependencyAudit.Audit.Finding
import DependencyAudit.Text.Lines

/-! Findings as a table: a heading, a row for every finding, and separators around them. -/
namespace DependencyAudit.Report

/-- The heading and the width of each column. -/
def columns : List (String × Nat) :=
  [("", 6), ("TargetName", 40), ("Type", 25), ("Details", 50)]

/-- Cuts or fills a text to the width. -/
def fit (width : Nat) (cell : String) : String :=
  let cs := cell.toList.take width
  String.ofList (cs ++ List.replicate (width - cs.length) ' ')

/-- The number of lines of a row: that of its highest cell, but at least one. -/
def rowHeight (cells : List String) : Nat :=
  ((cells.map fun cell => (Text.lines cell).length).max?.getD 0).max 1

/-- One line of a row; a cell without that line is empty there. -/
def rowLine (cells : List (List String)) (line : Nat) : String :=
  String.join ((cells.zip columns).map fun (lines, _, width) => fit width (lines[line]?.getD ""))

/-- The lines of a row. -/
def rowLines (cells : List String) : List String :=
  (List.range (rowHeight cells)).map (rowLine (cells.map Text.lines))

/-- The width of a row. -/
def rowWidth : Nat := columns.foldl (fun n column => n + column.2) 0

/-- One dash less than a row is wide. -/
def separator : String := String.ofList (List.replicate (rowWidth - 1) '-')

/-- The cells of the finding with the given number. -/
def cells (number : Nat) (f : Finding) : List String :=
  [toString number ++ ".", f.target, f.label, f.details]

/-- The lines of a table whose findings are counted from `number`, after the heading. -/
def bodyLines (number : Nat) : List Finding → List String
  | [] => []
  | f :: fs => rowLines (cells number f) ++ separator :: bodyLines (number + 1) fs

def tableLines (fs : List Finding) : List String :=
  separator :: rowLines (columns.map (·.1)) ++ separator :: bodyLines 1 fs

/-- The text of the table. -/
def table (fs : List Finding) : String := String.intercalate "\n" (tableLines fs)

end DependencyAudit.Report
