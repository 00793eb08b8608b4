import DependencyAudit.Package

/-!
The policy of an audit: which modules and targets are not looked at, and which modules are passed on
by others.
-/
namespace DependencyAudit

/-- Whoever imports the owner has the modules too. -/
structure Reexport where
  owner : String
  modules : List String
deriving DecidableEq, Inhabited

structure IgnoredModule where
  name : String
  reason : Option String := none
deriving DecidableEq, Inhabited

structure IgnoredTarget where
  name : String
  reason : Option String := none
deriving DecidableEq, Inhabited

/-- `tool` is the program that tells a package's manifest. -/
structure Policy where
  tool : Path := ⟨"/usr/bin/swift"⟩
  systemModules : List String := []
  reexports : List Reexport := []
  ignoredModules : List IgnoredModule := []
  ignoredTargets : List IgnoredTarget := []
  debugLogging : Bool := false
deriving DecidableEq, Inhabited

def Reexport.passesOn (r : Reexport) (moduleName : String) : Bool := r.modules.contains moduleName

namespace Policy

def isSystem (p : Policy) (moduleName : String) : Bool := p.systemModules.contains moduleName

def isIgnored (p : Policy) (moduleName : String) : Bool :=
  p.ignoredModules.any (·.name == moduleName)

def ignoresTarget (p : Policy) (target : String) : Bool := p.ignoredTargets.any (·.name == target)

/-- The first declaration that passes the module on. -/
def exporter? (p : Policy) (moduleName : String) : Option Reexport :=
  p.reexports.find? (·.passesOn moduleName)

/-- A policy that uses every field. -/
def sample : Policy where
  systemModules := ["Foundation", "SwiftUI"]
  reexports := [⟨"SomeFramework", ["SomeOtherFramework"]⟩]
  ignoredModules := [⟨"MyModel", some "It's complicated"⟩]
  ignoredTargets := [⟨"MyTarget", some "It's also complicated"⟩]

end Policy

end DependencyAudit
