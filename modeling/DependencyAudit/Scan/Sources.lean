import DependencyAudit.Package
import DependencyAudit.Scan.FileSystem

/-! The source files of a target: of the files below its directory those that belong to it. -/
namespace DependencyAudit

/-- What a scan tells about a file that it leaves out. -/
inductive Warning
  | nonSource (file : Path)
  | excluded (file : Path)
  | unreadable (file : Path) (error : ReadError)
deriving DecidableEq

def Warning.message : Warning → String
  | nonSource file => "Skipping non source: " ++ file.text
  | excluded file => "Skipping excluded: " ++ file.text
  | unreadable file error =>
    "Error processing file " ++ file.text ++ ": " ++ error.message file

/-- The extensions of the files that are scanned. -/
def sourceExtensions : List String := ["swift"]

def Path.isSource (p : Path) : Bool := p.extension?.any sourceExtensions.contains

namespace Target

/-- The directory of a target's sources: its own path, or the one that its kind and its name
give. -/
def sourceDirectory (t : Target) (manifestDir : Path) : Path :=
  match t.path with
  | some path => (manifestDir.join path).clean
  | none => ((manifestDir.join ⟨t.kind.sourceRoot⟩).join ⟨t.name⟩).clean

def excludes (t : Target) (file : Path) : Bool := t.exclude.any file.mentions

/-- Why a listed file does not belong to the target. -/
def objection? (t : Target) (file : Path) : Option Warning :=
  if !file.isSource then some (.nonSource file)
  else if t.excludes file then some (.excluded file)
  else none

/-- The listed files that belong to the target, in the order of paths. -/
def sources (t : Target) (listed : List Path) : List Path :=
  (listed.filter fun file => (t.objection? file).isNone).mergeSort fun a b => (a.order b).isLE

/-- The warnings about the other listed files. -/
def objections (t : Target) (listed : List Path) : List Warning := listed.filterMap t.objection?

end Target

end DependencyAudit
