import DependencyAudit.FileTree
import DependencyAudit.Package.Manifest
import DependencyAudit.Text.Classes

/-!
The program that tells a package's manifest. It is called in the directory of the package, and what
it writes to its standard output is the manifest.
-/
namespace DependencyAudit

/-- The names of the signals, from number one on. -/
def signalNames : List String :=
  ["SIGHUP", "SIGINT", "SIGQUIT", "SIGILL", "SIGTRAP", "SIGABRT", "SIGBUS", "SIGFPE", "SIGKILL",
   "SIGUSR1", "SIGSEGV", "SIGUSR2", "SIGPIPE", "SIGALRM", "SIGTERM", "SIGSTKFLT", "SIGCHLD",
   "SIGCONT", "SIGSTOP", "SIGTSTP", "SIGTTIN", "SIGTTOU", "SIGURG", "SIGXCPU", "SIGXFSZ",
   "SIGVTALRM", "SIGPROF", "SIGWINCH", "SIGIO", "SIGPWR", "SIGSYS"]

def ExitStatus.message : ExitStatus → String
  | exited code => "exit status: " ++ toString code
  | killed signal =>
    "signal: " ++ toString signal ++
      match signal with
      | 0 => ""
      | n + 1 =>
        match signalNames[n]? with
        | some name => " (" ++ name ++ ")"
        | none => ""

/-- Why no manifest is known. -/
inductive ManifestError
  | notStarted (tool : Path) (cause : SystemError)
  | failed (tool : Path) (status : ExitStatus) (report : String)
  | invalidText
  | silent (tool : Path)
  | undecodable (problem : Json.Problem)
deriving DecidableEq

/-- How the program is called. -/
def Manifest.arguments : List String := ["package", "dump-package"]

def Manifest.call (tool : Path) : String :=
  String.intercalate " " (tool.text :: Manifest.arguments)

def ManifestError.message : ManifestError → String
  | notStarted tool _ => "Failed to run " ++ tool.text
  | failed tool status report =>
    Manifest.call tool ++ " failed (" ++ status.message ++ "): " ++ report
  | invalidText => "Manifest dump is not valid UTF-8"
  | silent tool => Manifest.call tool ++ " produced no output"
  | undecodable _ => "Failed to decode package manifest"

namespace FileTree

/-- Goes to a directory. -/
def enter (t : FileTree) (directory : Location) (dir : Path) : Except SystemError Location :=
  match t.find directory dir with
  | .ok (l, .directory) => .ok l
  | .ok _ => .error .notDirectory
  | .error cause => .error cause

/-- The program at a path. Without a slash it is looked for in the directories of the installed
programs, which hold none; but the single dot and the double dot lead to directories from there. -/
def program (t : FileTree) (directory : Location) (tool : Path) :
    Except SystemError (Invocation → Except SystemError Response) :=
  if tool.text.toList.contains Path.slash then
    match t.find directory tool with
    | .ok (_, .program _ run) => .ok run
    | .ok _ => .error .permissionDenied
    | .error cause => .error cause
  else match Path.move? tool.text.toList with
  | none => .error .notFound
  | some (.into name) => .error (if nameLimit < name.utf8ByteSize then .nameTooLong else .notFound)
  | some _ => .error .permissionDenied

/-- Calls the program in a directory. -/
def call (t : FileTree) (directory : Location) (dir tool : Path) : Except SystemError Response := do
  unless tool.isValid && dir.isValid do throw .invalidPath
  let l ← t.enter directory dir
  let run ← t.program l tool
  run ⟨Manifest.arguments, l⟩

end FileTree

namespace Manifest

/-- The package that a response describes. -/
def ofResponse (tool : Path) (r : Response) : Except ManifestError Package :=
  if r.status ≠ .exited 0 then
    .error (.failed tool r.status
      (String.ofList (Text.trim (Text.ofBytesLenient r.stderr).toList)))
  else match Text.ofBytes? r.stdout with
  | none => .error .invalidText
  | some text =>
    if (Text.trim text.toList).isEmpty then .error (.silent tool)
    else (decode text).mapError .undecodable

/-- The package in a directory, as the program tells it. -/
def obtain (t : FileTree) (directory : Location) (dir tool : Path) :
    Except ManifestError Package :=
  match t.call directory dir tool with
  | .ok response => ofResponse tool response
  | .error cause => .error (.notStarted tool cause)

end Manifest

end DependencyAudit
