import DependencyAudit.Policy
import DependencyAudit.Json.Printer
import DependencyAudit.Json.Record

/-! The JSON form of a policy. Every field may be left out of it. -/
namespace DependencyAudit.Policy

open Json

inductive Field
  | tool
  | systemModules
  | reexports
  | ignoredModules
  | ignoredTargets
  | debugLogging
deriving DecidableEq

inductive ReexportField
  | owner
  | modules
deriving DecidableEq

inductive IgnoredField
  | name
  | reason
deriving DecidableEq

def Field.label : Field → String
  | tool => "swiftExecPath"
  | systemModules => "systemFrameworks"
  | reexports => "exportedImports"
  | ignoredModules => "ignoredFrameworks"
  | ignoredTargets => "ignoredTargets"
  | debugLogging => "enableDebugLogging"

def ReexportField.label : ReexportField → String
  | owner => "importFramework"
  | modules => "exportedImports"

def moduleLabel : IgnoredField → String
  | .name => "framework"
  | .reason => "reason"

def targetLabel : IgnoredField → String
  | .name => "targetName"
  | .reason => "reason"

def ReexportField.Type : ReexportField → Type
  | owner => String
  | modules => List String

def reexportRecord : Record ReexportField ReexportField.Type where
  title := "ExportedImport"
  fields := [.owner, .modules]
  all_fields i := by cases i <;> simp
  name := ReexportField.label
  field
    | .owner => Decoder.string
    | .modules => Decoder.list Decoder.string
  default?
    | .owner => none
    | .modules => some ([] : List String)

def reexport : Decoder Reexport :=
  reexportRecord.decoder.map fun fields => { owner := fields .owner, modules := fields .modules }

def IgnoredField.Type : IgnoredField → Type
  | name => String
  | reason => Option String

def ignoredRecord (title : String) (label : IgnoredField → String) :
    Record IgnoredField IgnoredField.Type where
  title := title
  fields := [.name, .reason]
  all_fields i := by cases i <;> simp
  name := label
  field
    | .name => Decoder.string
    | .reason => Decoder.optionalString
  default?
    | .name => none
    | .reason => some (none : Option String)

def ignoredModule : Decoder IgnoredModule :=
  (ignoredRecord "IgnoredFramework" moduleLabel).decoder.map fun fields =>
    { name := fields .name, reason := fields .reason }

def ignoredTarget : Decoder IgnoredTarget :=
  (ignoredRecord "IgnoredTarget" targetLabel).decoder.map fun fields =>
    { name := fields .name, reason := fields .reason }

def Field.Type : Field → Type
  | tool => String
  | systemModules => List String
  | reexports => List Reexport
  | ignoredModules => List IgnoredModule
  | ignoredTargets => List IgnoredTarget
  | debugLogging => Bool

def policyRecord : Record Field Field.Type where
  title := "Configuration"
  fields :=
    [.tool, .systemModules, .reexports, .ignoredModules, .ignoredTargets, .debugLogging]
  all_fields i := by cases i <;> simp
  name := Field.label
  field
    | .tool => Decoder.path
    | .systemModules => Decoder.list Decoder.string
    | .reexports => Decoder.list reexport
    | .ignoredModules => Decoder.list ignoredModule
    | .ignoredTargets => Decoder.list ignoredTarget
    | .debugLogging => Decoder.bool
  default?
    | .tool => some ({} : Policy).tool.text
    | .systemModules => some ({} : Policy).systemModules
    | .reexports => some ({} : Policy).reexports
    | .ignoredModules => some ({} : Policy).ignoredModules
    | .ignoredTargets => some ({} : Policy).ignoredTargets
    | .debugLogging => some ({} : Policy).debugLogging

def policy : Decoder Policy :=
  policyRecord.decoder.map fun fields =>
    { tool := ⟨fields .tool⟩
      systemModules := fields .systemModules
      reexports := fields .reexports
      ignoredModules := fields .ignoredModules
      ignoredTargets := fields .ignoredTargets
      debugLogging := fields .debugLogging }

/-- The policy that a text describes. -/
def decode (text : String) : Except Problem Policy := policy.decode text

def texts (ss : List String) : Json := .array (ss.map .text)

/-- A reason is written only if there is one. -/
def reasonMember (label : IgnoredField → String) : Option String → List (String × Json)
  | none => []
  | some reason => [(label .reason, .text reason)]

def reexportJson (r : Reexport) : Json :=
  .record [(ReexportField.owner.label, .text r.owner), (ReexportField.modules.label, texts r.modules)]

def ignoredJson (label : IgnoredField → String) (name : String) (reason : Option String) : Json :=
  .record ((label .name, .text name) :: reasonMember label reason)

/-- The JSON form of a policy, with all its fields. -/
def toJson (p : Policy) : Json :=
  .record
    [(Field.tool.label, .text p.tool.text),
     (Field.systemModules.label, texts p.systemModules),
     (Field.reexports.label, .array (p.reexports.map reexportJson)),
     (Field.ignoredModules.label,
       .array (p.ignoredModules.map fun m => ignoredJson moduleLabel m.name m.reason)),
     (Field.ignoredTargets.label,
       .array (p.ignoredTargets.map fun t => ignoredJson targetLabel t.name t.reason)),
     (Field.debugLogging.label, .bool p.debugLogging)]

/-- The text of a policy. -/
def encode (p : Policy) : String := p.toJson.print

end DependencyAudit.Policy
