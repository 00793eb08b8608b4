import DependencyAudit.Path

/-! Packages: their targets in declaration order, and what the targets depend on. -/
namespace DependencyAudit

/-- Another target of the same package, or a product of another package. -/
inductive Dependency
  | sibling (name : String)
  | product (name package : String)
deriving DecidableEq, Inhabited

inductive TargetKind
  | regular
  | test
  | executable
deriving DecidableEq, Inhabited

/-- `path` is the source directory as seen from the package, if it is given; files whose path holds
a fragment of `exclude` do not belong to the target. -/
structure Target where
  name : String
  kind : TargetKind
  path : Option Path := none
  exclude : List String := []
  dependencies : List Dependency := []
deriving DecidableEq, Inhabited

structure Package where
  name : String
  targets : List Target
deriving DecidableEq, Inhabited

namespace Dependency

def name : Dependency → String
  | sibling name | product name _ => name

def kindLabel : Dependency → String
  | sibling _ => "Local"
  | product _ _ => "External"

def package? : Dependency → Option String
  | sibling _ => none
  | product _ package => some package

/-- Dependencies are identified by their names. -/
def same (a b : Dependency) : Bool := a.name == b.name

/-- The first dependency of every name, in declaration order. -/
def distinct (ds : List Dependency) : List Dependency :=
  (ds.foldl (fun seen d => if seen.any (·.same d) then seen else d :: seen) []).reverse

end Dependency

namespace TargetKind

def all : List TargetKind := [regular, test, executable]

def label : TargetKind → String
  | regular => "regular"
  | test => "test"
  | executable => "executable"

/-- The directory that holds the sources of a target without a path of its own. -/
def sourceRoot : TargetKind → String
  | regular | executable => "Sources"
  | test => "Tests"

end TargetKind

def Target.dependsOn (t : Target) (name : String) : Bool := t.dependencies.any (·.name == name)

def Package.target? (p : Package) (name : String) : Option Target :=
  p.targets.find? (·.name == name)

/-- The file that makes a directory a package. -/
def Package.fileName : Path := ⟨"Package.swift"⟩

end DependencyAudit
