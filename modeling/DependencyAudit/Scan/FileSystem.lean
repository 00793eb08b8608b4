import DependencyAudit.Path

/-!
What a scan asks of a file system. An answer may depend on how many questions were asked before, so
that files may change while a scan is going on.
-/
namespace DependencyAudit

/-- Why the operating system refuses a request. -/
inductive SystemError
  | notFound
  | permissionDenied
  | notDirectory
  | isDirectory
  | tooManyLinks
  | nameTooLong
  | invalidPath
  | notRunnable
  | invalidText
deriving DecidableEq, Inhabited

def SystemError.message : SystemError → String
  | notFound => "No such file or directory (os error 2)"
  | permissionDenied => "Permission denied (os error 13)"
  | notDirectory => "Not a directory (os error 20)"
  | isDirectory => "Is a directory (os error 21)"
  | tooManyLinks => "Too many levels of symbolic links (os error 40)"
  | nameTooLong => "File name too long (os error 36)"
  | invalidPath => "file name contained an unexpected NUL byte"
  | notRunnable => "Exec format error (os error 8)"
  | invalidText => "stream did not contain valid UTF-8"

/-- Why a file cannot be read: it is not there, or the operating system gives another cause. -/
inductive ReadError
  | absent
  | failed (cause : SystemError)
deriving DecidableEq, Inhabited

/-- What is told about a file that the operating system does not let read. -/
def ReadError.context (file : Path) : String := "Failed to read " ++ file.text

def ReadError.message (file : Path) : ReadError → String
  | absent => "no such file: " ++ file.text
  | failed cause => ReadError.context file ++ ": " ++ cause.message

/-- `list n dir` are the files below a directory and `read n file` the lines of a file, as the
answer to the question with the number `n`. -/
structure FileSystem where
  list : Nat → Path → List Path
  read : Nat → Path → Except ReadError (List String)

namespace FileSystem

/-- A file system that holds the given listings and files, found by the text of a path. -/
def ofEntries (listings : List (String × List Path)) (files : List (String × List String)) :
    FileSystem where
  list _ dir := (listings.lookup dir.text).getD []
  read _ file :=
    match files.lookup file.text with
    | some lines => .ok lines
    | none => .error .absent

end FileSystem

end DependencyAudit
