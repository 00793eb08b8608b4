import DependencyAudit.Package
import DependencyAudit.Json.Record

/-!
Package manifests: the JSON form of a package. A dependency is an object with one member, which
names its form and holds an array: the name of the target comes first, or the name of the product
and that of its package.
-/
namespace DependencyAudit.Manifest

open Json

inductive PackageField
  | name
  | targets
deriving DecidableEq

inductive TargetField
  | name
  | kind
  | path
  | exclude
  | dependencies
deriving DecidableEq

def textAt? (items : List Json) (i : Nat) : Option String :=
  match items[i]? with
  | some (.string content) => content
  | _ => none

def sibling? (items : List Json) : Except Problem Dependency :=
  match textAt? items 0 with
  | some name => .ok (.sibling name)
  | none => .error (.mismatch .siblingWithoutName)

def product? (items : List Json) : Except Problem Dependency :=
  match textAt? items 0, textAt? items 1 with
  | some name, some package => .ok (.product name package)
  | some name, none => .error (.mismatch (.productWithoutPackage name))
  | none, _ => .error (.mismatch .productWithoutName)

/-- A value may nest to this depth, counted from the outermost array or object. -/
def depthLimit : Nat := 127

/-- The levels around an item of a dependency: the package, its targets, a target, its dependencies,
the dependency and its array. -/
def dependencyDepth : Nat := 6

/-- What is read of a dependency: the items of its array, and what they mean. -/
structure Form where
  items : List Json
  meaning : List Json → Except Problem Dependency

def form (tag : String) (meaning : List Json → Except Problem Dependency) :
    Decoder.Variant Form where
  tag := tag
  bare := .error (.mismatch (.wrongType .bareVariant "newtype variant"))
  payload := (Decoder.list (Decoder.any (depthLimit - dependencyDepth))).map (⟨·, meaning⟩)

/-- The items are looked at when the object has ended. -/
def dependency : Decoder Dependency :=
  (Decoder.choice [form "byName" sibling?, form "target" sibling?, form "product" product?]).refine
    fun f => f.meaning f.items

def kind : Decoder TargetKind :=
  Decoder.choice (TargetKind.all.map fun k => ⟨k.label, .ok k, Decoder.unit.map fun _ => k⟩)

def TargetField.Type : TargetField → Type
  | name => String
  | kind => TargetKind
  | path => Option String
  | exclude => List String
  | dependencies => List Dependency

def targetRecord : Record TargetField TargetField.Type where
  title := "Target"
  fields := [.name, .kind, .path, .exclude, .dependencies]
  all_fields i := by cases i <;> simp
  name
    | .name => "name"
    | .kind => "type"
    | .path => "path"
    | .exclude => "exclude"
    | .dependencies => "dependencies"
  field
    | .name => Decoder.string
    | .kind => kind
    | .path => Decoder.optionalString
    | .exclude => Decoder.list Decoder.string
    | .dependencies => Decoder.list dependency
  default?
    | .name | .kind => none
    | .path => some none
    | .exclude => some ([] : List String)
    | .dependencies => some ([] : List Dependency)

def target : Decoder Target :=
  targetRecord.decoder.map fun fields =>
    { name := fields .name
      kind := fields .kind
      path := Option.map Path.mk (fields .path)
      exclude := fields .exclude
      dependencies := fields .dependencies }

def PackageField.Type : PackageField → Type
  | name => String
  | targets => List Target

def packageRecord : Record PackageField PackageField.Type where
  title := "Package"
  fields := [.name, .targets]
  all_fields i := by cases i <;> simp
  name
    | .name => "name"
    | .targets => "targets"
  field
    | .name => Decoder.string
    | .targets => Decoder.list target
  default? _ := none

def package : Decoder Package :=
  packageRecord.decoder.map fun fields => { name := fields .name, targets := fields .targets }

/-- The package that a manifest describes. -/
def decode (text : String) : Except Problem Package := package.decode text

end DependencyAudit.Manifest
