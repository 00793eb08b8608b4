import DependencyAudit.Json.Document
import DependencyAudit.Json.Numeral
import DependencyAudit.Text.Quoted

/-! Why a text cannot be decoded: it is no JSON value, or the value has the wrong shape. -/
namespace DependencyAudit.Json

/-- A value of the wrong type, as far as a message tells it. -/
inductive Found
  | null
  | boolean (value : Bool)
  | integer (value : Int)
  | floating (text : String)
  | string (content : String)
  | sequence
  | map
  | bareVariant
deriving DecidableEq

inductive Mismatch
  | wrongType (found : Found) (expected : String)
  | missingField (name : String)
  | duplicateField (name : String)
  | wrongLength (length : Nat) (title : String) (size : Nat)
  | unknownVariant (name : String) (known : List String)
  | siblingWithoutName
  | productWithoutName
  | productWithoutPackage (name : String)
deriving DecidableEq

inductive Problem
  | fault (f : Fault)
  | mismatch (m : Mismatch)
deriving DecidableEq

/-- A name as messages set it off. -/
def ticked (name : String) : String := "`" ++ name ++ "`"

def Found.message : Found → String
  | null => "null"
  | boolean value => "boolean " ++ ticked (if value then "true" else "false")
  | integer value => "integer " ++ ticked (toString value)
  | floating text => "floating point " ++ ticked text
  | string content => "string " ++ Text.quoted content
  | sequence => "sequence"
  | map => "map"
  | bareVariant => "unit variant"

def Mismatch.message : Mismatch → String
  | wrongType found expected => "invalid type: " ++ found.message ++ ", expected " ++ expected
  | missingField name => "missing field " ++ ticked name
  | duplicateField name => "duplicate field " ++ ticked name
  | wrongLength length title size =>
    "invalid length " ++ toString length ++ ", expected struct " ++ title ++ " with " ++
      toString size ++ (if size = 1 then " element" else " elements")
  | unknownVariant name known =>
    "unknown variant " ++ ticked name ++ ", expected one of " ++
      String.intercalate ", " (known.map ticked)
  | siblingWithoutName => "malformed local dependency: missing name"
  | productWithoutName => "malformed product dependency: missing name"
  | productWithoutPackage name => "malformed product dependency '" ++ name ++ "': missing package"

def Problem.malformed : Problem := .fault .malformed

namespace Tear

/-- The fault where a value has to stand. -/
def atValue : Tear → Fault
  | token _ => .malformed
  | ending .complete => .unfinished
  | ending (.brokenString strict _) => strict
  | ending (.brokenScalar strict _) => strict

/-- The fault where a punctuation mark has to stand. -/
def atMark : Tear → Fault
  | ending .complete => .unfinished
  | _ => .malformed

/-- The fault where a string or nothing else than a string has to stand. -/
def atString : Tear → Fault
  | ending .complete => .unfinished
  | ending (.brokenString strict _) => strict
  | _ => .malformed

/-- The fault where the value is only passed over. -/
def atSkippedValue : Tear → Fault
  | token _ => .malformed
  | ending .complete => .unfinished
  | ending (.brokenString _ loose) => loose
  | ending (.brokenScalar _ loose) => loose

/-- The fault where the name is only passed over. -/
def atSkippedName : Tear → Fault
  | ending .complete => .unfinished
  | ending (.brokenString _ loose) => loose
  | _ => .malformed

end Tear

/-- What a message tells of a value, if it can be told. -/
def found : Json → Except Fault Found
  | null => .ok .null
  | bool value => .ok (.boolean value)
  | number spelling =>
    match numeral? spelling.toList with
    | some (.integer value) => .ok (.integer value)
    | some (.floating value) => .ok (.floating (Decimal.floatText value))
    | none => .error .malformed
  | string (some content) => .ok (.string content)
  | string none => .error .malformed
  | array _ => .ok .sequence
  | object _ => .ok .map

/-- What a message tells of a value that breaks off; it is told as soon as its type shows. -/
def Torn.found : Torn → Except Fault Found
  | absent tear => .error tear.atValue
  | item _ _ | afterItem _ _ => .ok .sequence
  | name _ _ | colon _ _ _ | member _ _ _ | afterMember _ _ => .ok .map

/-- The problem of a value of another type. -/
def Problem.unexpected (expected : String) : Except Fault Found → Problem
  | .ok found => .mismatch (.wrongType found expected)
  | .error f => .fault f

/-- The fault of a value that breaks off and is only passed over. -/
def Torn.skipped : Torn → Fault
  | absent tear => tear.atSkippedValue
  | item _ value | member _ _ value => value.skipped
  | name _ tear => tear.atSkippedName
  | afterItem _ tear | colon _ _ tear | afterMember _ tear => tear.atMark

end DependencyAudit.Json
