import DependencyAudit.CommandLine.Run

/-!
The command line on the disk. What the program that tells the manifest writes is read from standard
input, so that it is run in front: `swift package dump-package | dependency-audit`.
-/
namespace DependencyAudit.Main

/-- Whether the content of a file may be looked at. -/
def isRead (name : String) : Bool :=
  (Path.mk name).isSource || name == Policy.fileName.text

def contentOf (path name : String) : IO ByteArray :=
  if isRead name then IO.FS.readBinFile path else return .empty

/-- The location that an absolute path names. -/
def locationOf (p : Path) : Location :=
  p.clean.components.filterMap fun
    | .name text => some text
    | _ => none

/-- A file of the disk in the tree. -/
def loadFile (tree : FileTree) (l : Location) (name : String) : IO FileTree := do
  return tree.plant l (.file (← contentOf l.path.text name))

/-- Reads what stands below a directory on the disk; what cannot be read is left out. -/
partial def load (tree : FileTree) (dir : Location) : IO FileTree := do
  let entries ← try (← IO.FS.realPath dir.path.text).readDir catch _ => pure #[]
  entries.foldlM (fun tree entry => do
    let l := dir ++ [entry.fileName]
    try
      match (← entry.path.symlinkMetadata).type with
      | .dir => load (tree.plant l .directory) l
      | .file => loadFile tree l entry.fileName
      | .symlink =>
        let target ← IO.FS.realPath entry.path
        if (← target.isDir) then return tree.plant l (.link ⟨target.toString⟩)
        else loadFile tree l entry.fileName
      | .other => return tree
    catch _ => return tree) tree

/-- Reads the policy file of a directory, if it has one. -/
def loadPolicy (tree : FileTree) (dir : Location) : IO FileTree := do
  let l := dir ++ [Policy.fileName.text]
  try loadFile tree l Policy.fileName.text catch _ => return tree

/-- The tree with the program that answers with what stands on standard input. -/
def withTool (tree : FileTree) (dir tool : Path) (manifest : ByteArray) : FileTree :=
  tree.plant (locationOf (dir.join tool))
    (.program .empty fun _ => .ok ⟨manifest, .empty, .exited 0⟩)

/-- Writes the policy file of a package if the run has written one. -/
def save (before after : FileTree) (directory : Location) (dir : Path) : IO Unit := do
  let file := dir.join Policy.fileName
  match after.bytes directory file, before.bytes directory file with
  | .ok content, .ok old => if content != old then IO.FS.writeBinFile file.text content
  | .ok content, .error _ => IO.FS.writeBinFile file.text content
  | .error _, _ => return

def run (options : CommandLine.Options) (args : List String) : IO UInt32 := do
  let start ← IO.monoMsNow
  let here : Path := ⟨(← IO.currentDir).toString⟩
  let directory := locationOf here
  let dir := here.join (options.manifestDir.getD here)
  let tree ← loadPolicy (({} : FileTree).plant directory .directory) directory
  let tree ← load (tree.plant (locationOf dir) .directory) (locationOf dir)
  let policy := CommandLine.policyFor tree directory options dir
  let manifest ← (← IO.getStdin).readToEnd
  let tree := withTool tree dir policy.tool manifest.toUTF8
  let colour := (← IO.getEnv "CLICOLOR_FORCE").any (· != "0")
  let result := CommandLine.run { tree, directory, colour } args
  save tree result.tree directory dir
  let elapsed := (← IO.monoMsNow) - start
  IO.print (result.stdout (Report.paint colour .cyan (toString elapsed)))
  unless result.complaint.isEmpty do IO.eprintln result.complaint
  return result.status.toUInt32

end DependencyAudit.Main

open DependencyAudit in
/-- Runs with the arguments of the command line. -/
def main (args : List String) : IO UInt32 := do
  match CommandLine.Request.ofArguments args with
  | .run options => Main.run options args
  | _ =>
    let result := CommandLine.run { tree := {}, directory := [], colour := false } args
    IO.print (result.stdout "")
    unless result.complaint.isEmpty do IO.eprintln result.complaint
    return result.status.toUInt32
