import DependencyAudit.Audit.Findings
import DependencyAudit.CommandLine.Options
import DependencyAudit.Package.Tool
import DependencyAudit.Policy.Lookup
import DependencyAudit.Report.Listing
import DependencyAudit.Scan.Session

/-! A run of the command line on a tree of files. -/
namespace DependencyAudit.CommandLine

/-- How an audit ends. -/
inductive Outcome
  | manifestNotFound
  | manifestUnreadable
  | findings (count : Nat)
deriving DecidableEq

/-- The greatest exit status that tells a number of findings. -/
def countLimit : Nat := 253

def Outcome.status : Outcome → Nat
  | manifestNotFound => 255
  | manifestUnreadable => 254
  | findings count => min count countLimit

/-- The status of a run that could not write what it was asked to. -/
def failureStatus : Nat := 1

/-- The status for arguments that are not understood. -/
def usageStatus : Nat := 2

/-- The findings of an audit, and how much was looked at. -/
structure AuditResult where
  findings : List Finding
  targets : Nat
  imports : Nat

/-- What is left of a run: its status, what it prints, given how the time that it took is shown, what
it has to complain about, and the tree. -/
structure Result where
  status : Nat
  stdout : String → String := fun _ => ""
  complaint : String := ""
  tree : FileTree

/-- What a run depends on besides its arguments. -/
structure Setting where
  tree : FileTree
  directory : Location
  colour : Bool

/-- The file that makes a directory a package, if it is there. -/
def locateManifest (t : FileTree) (directory : Location) (dir : Path) : Except Outcome Path :=
  let file := dir.join Package.fileName
  if t.isFile directory file then .ok file else .error .manifestNotFound

/-- Obtains the manifest, scans the sources and runs all checks. -/
def audit (t : FileTree) (directory : Location) (dir : Path) (policy : Policy) :
    Except ManifestError AuditResult := do
  let package ← Manifest.obtain t directory dir policy.tool
  let scan := package.scan (t.fileSystem directory) dir
  let audit : Audit := { package, scan, policy }
  .ok { findings := audit.findings, targets := package.targets.length, imports := scan.count }

/-- How many files are scanned at the same time. -/
def workers : Nat := 1

/-- The last line of a table. -/
def closing (colour : Bool) (elapsed : String) (r : AuditResult) : String :=
  let count (n : Nat) := Report.paint colour .cyan (toString n)
  "\n" ++ Report.paint colour .brightBlue "●" ++ " Finished in " ++ elapsed ++ "ms on " ++
    count r.targets ++ " targets and " ++ count r.imports ++ " imports (using " ++ count workers ++
    " threads).\n"

def output (colour : Bool) (format : Format) (r : AuditResult) (elapsed : String) : String :=
  match format with
  | .json => Report.printJson r.findings
  | .table => Report.printTable colour r.findings ++ closing colour elapsed r

/-- The tree after the sample policy was written, if that was asked for. -/
def prepare (s : Setting) (o : Options) (dir : Path) : Except PolicyError FileTree :=
  if o.writeSample then (Policy.writeSample s.tree s.directory dir).map (·.2) else .ok s.tree

/-- The policy for a package. The command line decides about debug records. -/
def policyFor (t : FileTree) (directory : Location) (o : Options) (dir : Path) : Policy :=
  let candidates := Policy.candidates dir directory.path
  { (Policy.load t directory candidates).1 with debugLogging := o.debugLogging }

/-- A run with options that were understood, in a working directory that is there and with an output
that takes whatever is printed. A run also fails without a working directory, or when its output
cannot be written; these two ways to end are not modelled. -/
def runWith (s : Setting) (o : Options) : Result :=
  let dir := o.manifestDir.getD s.directory.path
  match locateManifest s.tree s.directory dir with
  | .error outcome =>
    { status := outcome.status
      complaint := "No " ++ Package.fileName.text ++ " found in " ++ dir.text
      tree := s.tree }
  | .ok _ =>
    match prepare s o dir with
    | .error error => { status := failureStatus, complaint := error.message, tree := s.tree }
    | .ok tree =>
      match audit tree s.directory dir (policyFor tree s.directory o dir) with
      | .error error =>
        { status := Outcome.manifestUnreadable.status, complaint := error.message, tree }
      | .ok result =>
        { status := (Outcome.findings result.findings.length).status
          stdout := output s.colour (o.format.getD .table) result
          tree }

def helpText : String :=
"Checks that Swift package targets declare exactly the dependencies they import

Usage: spmlint [OPTIONS]

Options:
  -p, --package-manifest-dir <PACKAGE_MANIFEST_DIR>
          Directory containing Package.swift (defaults to the current directory)
  -o, --output-format <OUTPUT_FORMAT>
          How findings are printed [default: table] [possible values: table, json]
  -d, --debug-logging
          Enable debug logging
  -w, --write-configuration
          Write a sample configuration file into the package directory
  -h, --help
          Print help
"

/-- A run with the given arguments. -/
def run (s : Setting) (args : List String) : Result :=
  match Request.ofArguments args with
  | .run options => runWith s options
  | .help => { status := 0, stdout := fun _ => helpText, tree := s.tree }
  | .unusable =>
    { status := usageStatus, complaint := "For more information, try '--help'.", tree := s.tree }

end DependencyAudit.CommandLine
