import DependencyAudit.Json.Problem

/-!
Decoders. A text is decoded from left to right, so that the first problem in it is the one reported:
a decoder tells what it makes of a complete value, and what it finds wrong with one that breaks off.
-/
namespace DependencyAudit.Json

structure Decoder (α : Type) where
  read : Json → Except Problem α
  report : Torn → Problem

namespace Decoder

variable {α β : Type}

/-- Decodes a value of one type; `expected` names it in messages. -/
def scalar (expected : String) (view : Json → Option α) : Decoder α where
  read value :=
    match view value with
    | some a => .ok a
    | none => .error (.unexpected expected value.found)
  report torn := .unexpected expected torn.found

def asString : Json → Option String
  | .string content => content
  | _ => none

def string : Decoder String := scalar "a string" asString

def path : Decoder String := scalar "path string" asString

def bool : Decoder Bool :=
  scalar "a boolean" fun
    | .bool value => some value
    | _ => none

/-- Decodes `null`. -/
def unit : Decoder Unit :=
  scalar "unit" fun
    | .null => some ()
    | _ => none

/-- Decodes a string or `null`. -/
def optionalString : Decoder (Option String) :=
  scalar "a string" fun
    | .null => some none
    | value => (asString value).map some

def map (f : α → β) (d : Decoder α) : Decoder β where
  read value := (d.read value).map f
  report := d.report

/-- Looks further at what was decoded. A value that breaks off is not looked at. -/
def refine (f : α → Except Problem β) (d : Decoder α) : Decoder β where
  read value := d.read value >>= f
  report := d.report

/-- The first problem of the complete parts, or else that of the part that breaks off. -/
def firstOf (parts : Except Problem α) (last : Problem) : Problem :=
  match parts with
  | .ok _ => last
  | .error problem => problem

/-- Decodes every item of an array. -/
def list (d : Decoder α) : Decoder (List α) where
  read
    | .array items => items.mapM d.read
    | value => .error (.unexpected "a sequence" value.found)
  report
    | .item done torn => firstOf (done.mapM d.read) (d.report torn)
    | .afterItem done tear => firstOf (done.mapM d.read) (.fault tear.atMark)
    | torn => .unexpected "a sequence" torn.found

end Decoder

mutual

/-- Whether a value may be kept: its strings hold characters only, its numbers are within the
doubles, and it needs no more than `room` further levels of arrays and objects. -/
def isSound (room : Nat) : Json → Bool
  | null | bool _ => true
  | number spelling => fits spelling
  | string content => content.isSome
  | array items =>
    match room with
    | 0 => false
    | room + 1 => areSound room items
  | object members =>
    match room with
    | 0 => false
    | room + 1 => areSoundMembers room members

def areSound (room : Nat) : List Json → Bool
  | [] => true
  | item :: items => isSound room item && areSound room items

def areSoundMembers (room : Nat) : List (Option String × Json) → Bool
  | [] => true
  | (name, value) :: members => name.isSome && isSound room value && areSoundMembers room members

end

/-- The fault of a value that is to be kept and breaks off. -/
def Torn.unsound (room : Nat) : Torn → Fault
  | absent tear => tear.atValue
  | item done value =>
    match room with
    | 0 => .malformed
    | room + 1 => if areSound room done then value.unsound room else .malformed
  | afterItem done tear =>
    if 0 < room ∧ areSound (room - 1) done then tear.atMark else .malformed
  | name done tear =>
    if 0 < room ∧ areSoundMembers (room - 1) done then tear.atString else .malformed
  | colon done key tear =>
    if 0 < room ∧ areSoundMembers (room - 1) done ∧ key.isSome then tear.atMark else .malformed
  | member done key value =>
    match room with
    | 0 => .malformed
    | room + 1 =>
      if areSoundMembers room done ∧ key.isSome then value.unsound room else .malformed
  | afterMember done tear =>
    if 0 < room ∧ areSoundMembers (room - 1) done then tear.atMark else .malformed

namespace Decoder

variable {α : Type}

/-- Keeps any value that leaves room for no more than the given levels. -/
def any (room : Nat) : Decoder Json where
  read value := if value.isSound room then .ok value else .error .malformed
  report torn := .fault (torn.unsound room)

/-- One of several forms, told by a tag: the bare tag as a string, or an object with the tag as its
only name. -/
structure Variant (α : Type) where
  tag : String
  bare : Except Problem α
  payload : Decoder α

def variant? (variants : List (Variant α)) : Name → Except Problem (Variant α)
  | none => .error .malformed
  | some tag =>
    match variants.find? (·.tag == tag) with
    | some variant => .ok variant
    | none => .error (.mismatch (.unknownVariant tag (variants.map (·.tag))))

/-- Decodes the member of an object that has to be its only one. -/
def onlyMember (variants : List (Variant α)) (member : Member) : Except Problem α := do
  let variant ← variant? variants member.1
  variant.payload.read member.2

def choice (variants : List (Variant α)) : Decoder α where
  read
    | .string tag => do (← variant? variants tag).bare
    | .object (member :: rest) => do
      let a ← onlyMember variants member
      if rest.isEmpty then .ok a else .error .malformed
    | _ => .error .malformed
  report
    | .absent tear | .name [] tear => .fault tear.atString
    | .colon [] tag tear => firstOf (variant? variants tag) (.fault tear.atMark)
    | .member [] tag torn =>
      match variant? variants tag with
      | .ok variant => variant.payload.report torn
      | .error problem => problem
    | .afterMember [member] tear => firstOf (onlyMember variants member) (.fault tear.atMark)
    | .name (member :: _) _ | .colon (member :: _) _ _ | .member (member :: _) _ _
    | .afterMember (member :: _) _ => firstOf (onlyMember variants member) .malformed
    | .item _ _ | .afterItem _ _ | .afterMember [] _ => .malformed

/-- Decodes a text. After the value nothing may follow. -/
def decode (d : Decoder α) (text : String) : Except Problem α :=
  match Document.ofText text.toList with
  | .whole value => d.read value
  | .trailing value => .error (firstOf (d.read value) .malformed)
  | .torn torn => .error (d.report torn)

end Decoder

end DependencyAudit.Json
