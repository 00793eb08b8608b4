import DependencyAudit.Main
import DependencyAudit.Proofs.PathOrder
import DependencyAudit.Proofs.PathJoin
import DependencyAudit.Proofs.FileTree
import DependencyAudit.Proofs.Scan.Memory
import DependencyAudit.Proofs.Scan.Plain
import DependencyAudit.Proofs.Scan.Entries
import DependencyAudit.Proofs.Audit.Advice
import DependencyAudit.Proofs.Audit.Repair
import DependencyAudit.Proofs.Audit.Removal
import DependencyAudit.Proofs.Audit.Scope
import DependencyAudit.Proofs.Audit.Files
import DependencyAudit.Proofs.Audit.Availability
import DependencyAudit.Proofs.Audit.Respelling
import DependencyAudit.Proofs.Text.Runs
import DependencyAudit.Proofs.Text.Pattern
import DependencyAudit.Proofs.ImportLine.Grammar
import DependencyAudit.Proofs.Report.WalkOrder
import DependencyAudit.Proofs.ImportLine.Pattern
import DependencyAudit.Proofs.Audit.Locality
import DependencyAudit.Proofs.Json.Grammar
import DependencyAudit.Proofs.Json.Strings
import DependencyAudit.Proofs.Json.Numbers
import DependencyAudit.Proofs.Json.Tokens
import DependencyAudit.Proofs.Json.Texts
import DependencyAudit.Proofs.Json.Decoders
import DependencyAudit.Proofs.Json.Records
import DependencyAudit.Proofs.Manifest.Forms
import DependencyAudit.Proofs.Manifest.Dump
import DependencyAudit.Proofs.Json.Printer
import DependencyAudit.Proofs.Policy.RoundTrip
import DependencyAudit.Proofs.Scan.Account
import DependencyAudit.Proofs.Scan.TextFiles
import DependencyAudit.Proofs.Scan.Readings
import DependencyAudit.Proofs.Scan.Relocation
import DependencyAudit.Proofs.Policy.Candidates
import DependencyAudit.Proofs.Audit.Redundancy
import DependencyAudit.Proofs.Report.Records
import DependencyAudit.Proofs.CommandLine.Status
import DependencyAudit.Proofs.Audit.Use
import DependencyAudit.Proofs.Audit.Coverage
import DependencyAudit.Proofs.Audit.Reexports
import DependencyAudit.Proofs.Audit.Exemptions
import DependencyAudit.Proofs.Audit.FurtherReexports
import DependencyAudit.Proofs.Audit.SystemModules
import DependencyAudit.Proofs.Text.Lines
import DependencyAudit.Proofs.Report.Layout
import DependencyAudit.Proofs.Report.Totals
