import DependencyAudit.Report.Style
import DependencyAudit.Report.Table
import DependencyAudit.Json.Printer

/-! The two forms in which findings are printed: a table with a summary, and JSON records. -/
namespace DependencyAudit.Report

def line (text : String) : String := text ++ "\n"

def noFindings (colour : Bool) : String :=
  line (paint colour .boldGreen "✓" ++ " No errors found!")

/-- The labels in the order in which they are counted. -/
def countedLabels : List String :=
  ["Missing Dependency", "Unused Dependency", "Redundant Import", "Redundant Dependency"]

/-- How many findings there are with a label. -/
def count (label : String) (fs : List Finding) : Nat := (fs.filter (·.label = label)).length

/-- One line for each label that occurs. -/
def countLines (colour : Bool) (fs : List Finding) : List String :=
  (countedLabels.filter fun label => 0 < count label fs).map fun label =>
    "  " ++ label ++ ": " ++ paint colour .boldYellow (toString (count label fs))

def header (colour : Bool) (fs : List Finding) : String :=
  paint colour .boldRed ("Number of errors found: " ++ toString fs.length)

/-- The findings as a table, with their number before it and the numbers of each label after it. -/
def printTable (colour : Bool) (fs : List Finding) : String :=
  if fs.isEmpty then noFindings colour
  else
    line (header colour fs) ++ "\n" ++ line (paint colour .white (table fs)) ++ "\n" ++
      line (paint colour .bold "Summary") ++ String.join ((countLines colour fs).map line)

/-- The JSON form of a finding. -/
def record (f : Finding) : Json :=
  .record [("targetName", .text f.target), ("type", .text f.label), ("details", .text f.details)]

/-- The findings as a JSON array of records. -/
def printJson (fs : List Finding) : String := line (Json.array (fs.map record)).print

end DependencyAudit.Report
