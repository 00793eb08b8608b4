import DependencyAudit.FileTree
import DependencyAudit.Policy.Format

/-! Where the policy of a package is found: in the first usable file among the candidates. -/
namespace DependencyAudit

/-- Why a policy file is of no use. -/
inductive PolicyError
  | unreadable (file : Path) (cause : SystemError)
  | undecodable (file : Path) (problem : Json.Problem)
  | unwritable (file : Path) (cause : SystemError)
deriving DecidableEq

def PolicyError.message : PolicyError → String
  | unreadable file _ => "Failed to read config file " ++ file.text
  | undecodable file _ => "Failed to parse config file " ++ file.text
  | unwritable file _ => "Failed to write config file " ++ file.text

namespace Policy

def fileName : Path := ⟨".spmlint.json"⟩

/-- The policy in a file. -/
def ofFile (t : FileTree) (directory : Location) (file : Path) : Except PolicyError Policy :=
  match t.text directory file with
  | .ok text => (decode text).mapError (.undecodable file)
  | .error cause => .error (.unreadable file cause)

/-- The policy in the first usable file, or else the default policy, and what is wrong with the
files before it. Candidates that are no files are passed over. -/
def load (t : FileTree) (directory : Location) : List Path → Policy × List PolicyError
  | [] => ({}, [])
  | file :: files =>
    if t.isFile directory file then
      match ofFile t directory file with
      | .ok policy => (policy, [])
      | .error error =>
        let (policy, errors) := load t directory files
        (policy, error :: errors)
    else load t directory files

/-- The files in which a policy may stand: in the package's directory, and in the working
directory if that is another one. -/
def candidates (manifestDir workingDir : Path) : List Path :=
  let own := manifestDir.join fileName
  let other := workingDir.join fileName
  if own.same other then [own] else [own, other]

/-- Writes the sample policy into a directory. -/
def writeSample (t : FileTree) (directory : Location) (dir : Path) :
    Except PolicyError (Path × FileTree) :=
  let file := dir.join fileName
  match t.write directory file sample.encode.toUTF8 with
  | .ok t => .ok (file, t)
  | .error cause => .error (.unwritable file cause)

end Policy

end DependencyAudit
