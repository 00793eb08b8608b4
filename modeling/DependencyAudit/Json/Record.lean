import DependencyAudit.Json.Decoder

/-!
Records: values with named fields of different types. A record is given as an object or as an array
of its fields in order; names it does not know are passed over.
-/
namespace DependencyAudit.Json

/-- What a record holds. A field that may be left out has a value for that case. -/
structure Record (ι : Type) (T : ι → Type) where
  title : String
  fields : List ι
  all_fields : ∀ i, i ∈ fields
  name : ι → String
  field : (i : ι) → Decoder (T i)
  default? : (i : ι) → Option (T i)

namespace Record

variable {ι : Type} [DecidableEq ι] {T : ι → Type}

/-- The fields read so far. -/
abbrev Slots (T : ι → Type) := (i : ι) → Option (T i)

def Slots.empty : Slots T := fun _ => none

def Slots.set (slots : Slots T) (i : ι) (value : T i) : Slots T :=
  fun j => if h : i = j then some (h ▸ value) else slots j

def field? (r : Record ι T) (name : String) : Option ι := r.fields.find? (r.name · == name)

/-- The field that a name sets, if any; no field may be set twice. -/
def slotFor (r : Record ι T) (slots : Slots T) : Name → Except Problem (Option ι)
  | none => .error .malformed
  | some name =>
    match r.field? name with
    | none => .ok none
    | some i => if (slots i).isSome then .error (.mismatch (.duplicateField name)) else .ok (some i)

def member (r : Record ι T) (slots : Slots T) (m : Member) : Except Problem (Slots T) := do
  match ← r.slotFor slots m.1 with
  | none => .ok slots
  | some i => do
    let value ← (r.field i).read m.2
    .ok (slots.set i value)

def members (r : Record ι T) (slots : Slots T) : List Member → Except Problem (Slots T)
  | [] => .ok slots
  | m :: ms => do r.members (← r.member slots m) ms

/-- Reads items for fields in order. -/
def items (r : Record ι T) (slots : Slots T) : List ι → List Json → Except Problem (Slots T)
  | i :: is, item :: rest => do
    let value ← (r.field i).read item
    r.items (slots.set i value) is rest
  | _, _ => .ok slots

/-- The value of a field: the one read, or else its default. -/
def value? (r : Record ι T) (slots : Slots T) (i : ι) : Option (T i) :=
  (slots i).or (r.default? i)

/-- All fields, or the problem of the first one without a value. -/
def complete (r : Record ι T) (slots : Slots T) (missing : ι → Mismatch) :
    Except Problem ((i : ι) → T i) :=
  match h : r.fields.find? fun i => (r.value? slots i).isNone with
  | some i => .error (.mismatch (missing i))
  | none => .ok fun i => (r.value? slots i).get (by
      have := List.find?_eq_none.1 h i (r.all_fields i)
      exact Option.ne_none_iff_isSome.1 (by simpa using this))

def missingField (r : Record ι T) (i : ι) : Mismatch := .missingField (r.name i)

def missingItem (r : Record ι T) (i : ι) : Mismatch :=
  .wrongLength (r.fields.idxOf i) r.title r.fields.length

def expected (r : Record ι T) : String := "struct " ++ r.title

/-- Decodes the fields of a record. -/
def decoder (r : Record ι T) : Decoder ((i : ι) → T i) where
  read
    | .object ms => do r.complete (← r.members Slots.empty ms) r.missingField
    | .array is => do
      let fields ← r.complete (← r.items Slots.empty r.fields is) r.missingItem
      if is.length ≤ r.fields.length then .ok fields else .error .malformed
    | value => .error (.unexpected r.expected value.found)
  report
    | .name done tear => Decoder.firstOf (r.members Slots.empty done) (.fault tear.atString)
    | .afterMember done tear => Decoder.firstOf (r.members Slots.empty done) (.fault tear.atMark)
    | .colon done name tear =>
      Decoder.firstOf (r.members Slots.empty done >>= (r.slotFor · name)) (.fault tear.atMark)
    | .member done name torn =>
      match r.members Slots.empty done >>= (r.slotFor · name) with
      | .ok (some i) => (r.field i).report torn
      | .ok none => .fault torn.skipped
      | .error problem => problem
    | .afterItem done tear =>
      Decoder.firstOf (r.items Slots.empty r.fields done)
        (if done.length ≤ r.fields.length then .fault tear.atMark else .malformed)
    | .item done torn =>
      match r.items Slots.empty r.fields done, r.fields[done.length]? with
      | .error problem, _ => problem
      | .ok _, some i => (r.field i).report torn
      | .ok _, none => .malformed
    | .absent tear => .unexpected r.expected (Torn.absent tear).found

end Record

end DependencyAudit.Json
