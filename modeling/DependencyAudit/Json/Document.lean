import DependencyAudit.Json
import DependencyAudit.Json.Lexer

/-!
What a text amounts to: one value, one value with more behind it, or a value that breaks off. The
parts of a value that breaks off are kept up to the place where it does.
-/
namespace DependencyAudit.Json

/-- The name of a member, or `none` if half of a surrogate pair stands in it. -/
abbrev Name := Option String

abbrev Member := Name × Json

/-- Where a text breaks off: at a token that cannot stand there, or after the last token. -/
inductive Tear
  | token (t : Token)
  | ending (e : Ending)
deriving DecidableEq

/-- A value that breaks off, with the complete items or members before that place. -/
inductive Torn
  | absent (tear : Tear)
  | item (done : List Json) (item : Torn)
  | afterItem (done : List Json) (tear : Tear)
  | name (done : List Member) (tear : Tear)
  | colon (done : List Member) (name : Name) (tear : Tear)
  | member (done : List Member) (name : Name) (value : Torn)
  | afterMember (done : List Member) (tear : Tear)

inductive Document
  | whole (value : Json)
  | trailing (value : Json)
  | torn (torn : Torn)

/-- An array or object begun around the value being read, its parts last one first. -/
inductive Frame
  | array (done : List Json)
  | object (done : List Member) (name : Name)

/-- What has to follow, inside the arrays and objects begun, the innermost first. -/
inductive Due
  | value (around : List Frame)
  | itemOrEnd (around : List Frame)
  | afterItem (around : List Frame) (done : List Json)
  | nameOrEnd (around : List Frame)
  | name (around : List Frame) (done : List Member)
  | colon (around : List Frame) (done : List Member) (name : Name)
  | afterMember (around : List Frame) (done : List Member)
  | nothing (value : Json)

/-- The outermost value, given the one that breaks off inside. -/
def Torn.inside (around : List Frame) (t : Torn) : Torn :=
  around.foldl (fun t frame =>
    match frame with
    | .array done => .item done.reverse t
    | .object done key => .member done.reverse key t) t

namespace Due

/-- What follows a complete value. -/
def after (around : List Frame) (value : Json) : Due :=
  match around with
  | [] => .nothing value
  | .array done :: around => .afterItem around (value :: done)
  | .object done key :: around => .afterMember around ((key, value) :: done)

/-- What a text amounts to that breaks off here. -/
def tear (due : Due) (tear : Tear) : Document :=
  match due with
  | .value around => .torn (Torn.inside around (.absent tear))
  | .itemOrEnd around => .torn (Torn.inside around (.item [] (.absent tear)))
  | .afterItem around done => .torn (Torn.inside around (.afterItem done.reverse tear))
  | .nameOrEnd around => .torn (Torn.inside around (.name [] tear))
  | .name around done => .torn (Torn.inside around (.name done.reverse tear))
  | .colon around done key => .torn (Torn.inside around (.colon done.reverse key tear))
  | .afterMember around done => .torn (Torn.inside around (.afterMember done.reverse tear))
  | .nothing v =>
    match tear with
    | .ending .complete => .whole v
    | _ => .trailing v

/-- A token at the place of a value. -/
def begin (around : List Frame) (t : Token) : Except Document Due :=
  match t with
  | .null => .ok (after around .null)
  | .bool b => .ok (after around (.bool b))
  | .number spelling => .ok (after around (.number spelling))
  | .string content => .ok (after around (.string content))
  | .openBracket => .ok (.itemOrEnd around)
  | .openBrace => .ok (.nameOrEnd around)
  | .closeBracket | .closeBrace | .comma | .colon => .error ((Due.value around).tear (.token t))

/-- Reads one token. -/
def step (due : Due) (t : Token) : Except Document Due :=
  match due, t with
  | .value around, t => begin around t
  | .itemOrEnd around, .closeBracket => .ok (after around (.array []))
  | .itemOrEnd around, t => begin (.array [] :: around) t
  | .afterItem around done, .comma => .ok (.value (.array done :: around))
  | .afterItem around done, .closeBracket => .ok (after around (.array done.reverse))
  | .nameOrEnd around, .closeBrace => .ok (after around (.object []))
  | .nameOrEnd around, .string key => .ok (.colon around [] key)
  | .name around done, .string key => .ok (.colon around done key)
  | .colon around done key, .colon => .ok (.value (.object done key :: around))
  | .afterMember around done, .comma => .ok (.name around done)
  | .afterMember around done, .closeBrace => .ok (after around (.object done.reverse))
  | due, t => .error (due.tear (.token t))

/-- Reads tokens as long as they fit. -/
def steps (due : Due) : List Token → Except Document Due
  | [] => .ok due
  | t :: ts =>
    match due.step t with
    | .ok due => due.steps ts
    | .error document => .error document

end Due

/-- What the tokens and the ending after them amount to. -/
def Document.ofTokens (ts : List Token) (ending : Ending) : Document :=
  match (Due.value []).steps ts with
  | .ok due => due.tear (.ending ending)
  | .error document => document

def Document.ofText (text : List Char) : Document :=
  let (ts, ending) := tokens text
  .ofTokens ts ending

/-- The value that a text spells, if it spells one and nothing else. -/
def ofText? (text : String) : Option Json :=
  match Document.ofText text.toList with
  | .whole value => some value
  | _ => none

end DependencyAudit.Json
