import DependencyAudit.Json.Token

/-! The tokens of a text, found by reading one character after the other. -/
namespace DependencyAudit.Json

/-- Where a string is being read: among its characters, after a backslash, or at a hexadecimal
escape of which `left` digits are due. -/
inductive StringPhase
  | plain
  | escape
  | hex (value left : Nat)

/-- A string being read: its characters, last one first; the first half of a surrogate pair whose
second half has to follow; and the first fault that only a strict reading sees. -/
structure StringState where
  content : List Char := []
  lead : Option Nat := none
  fault : Option Fault := none
  phase : StringPhase := .plain

/-- The part of a number that was read last. -/
inductive NumberPhase
  | minus
  | zero
  | whole
  | point
  | fraction
  | mark
  | sign
  | exponent

/-- What is being read. `badHex` is a hexadecimal escape with a wrong digit; `due` tells how many
bytes the four digits still lack. -/
inductive Reading
  | between
  | word (rest : List Char) (token : Token)
  | number (phase : NumberPhase) (read : List Char)
  | string (s : StringState)
  | badHex (due : Nat) (fault : Option Fault)
  | broken (ending : Ending)

/-- The tokens read, last one first, and what is being read. -/
structure Lexer where
  tokens : List Token := []
  reading : Reading := .between

def isSpace (c : Char) : Bool := c = ' ' || c = '\t' || c = '\n' || c = '\r'

def isDigit (c : Char) : Bool := '0' ≤ c && c ≤ '9'

def hexValue? (c : Char) : Option Nat :=
  if isDigit c then some (c.toNat - 0x30)
  else if 'a' ≤ c && c ≤ 'f' then some (c.toNat - 0x57)
  else if 'A' ≤ c && c ≤ 'F' then some (c.toNat - 0x37)
  else none

/-- The character after a backslash, apart from `u`. -/
def escaped? : Char → Option Char
  | '"' => some '"'
  | '\\' => some '\\'
  | '/' => some '/'
  | 'b' => some '\x08'
  | 'f' => some '\x0c'
  | 'n' => some '\n'
  | 'r' => some '\r'
  | 't' => some '\t'
  | _ => none

def isLead (unit : Nat) : Bool := 0xD800 ≤ unit && unit < 0xDC00

def isTrail (unit : Nat) : Bool := 0xDC00 ≤ unit && unit < 0xE000

/-- The character of a surrogate pair. -/
def paired (lead trail : Nat) : Char :=
  Char.ofNat (0x10000 + (lead - 0xD800) * 0x400 + (trail - 0xDC00))

namespace StringState

def push (s : StringState) (c : Char) : StringState :=
  { s with content := c :: s.content, phase := .plain }

/-- The first fault of a strict reading is kept. -/
def blame (s : StringState) : StringState :=
  { s with fault := some (s.fault.getD .malformed), lead := none, phase := .plain }

/-- Half a surrogate pair waits for its other half; without a partner it is a fault. -/
def unit (s : StringState) (value : Nat) : StringState :=
  match s.lead with
  | some lead => if isTrail value then { s with lead := none }.push (paired lead value) else s.blame
  | none =>
    if isLead value then { s with lead := some value, phase := .plain }
    else if isTrail value then s.blame
    else s.push (Char.ofNat value)

/-- The state when anything but the second half of a pair follows. -/
def settle (s : StringState) : StringState := if s.lead.isSome then s.blame else s

def ending (s : StringState) (loose : Fault) : Ending := .brokenString (s.fault.getD loose) loose

def token (s : StringState) : Token :=
  .string (if s.fault.isSome then none else some (String.ofList s.content.reverse))

end StringState

namespace NumberPhase

/-- The part that a character continues with. -/
def next? : NumberPhase → Char → Option NumberPhase
  | minus, c => if c = '0' then some zero else if isDigit c then some whole else none
  | zero, c => if c = '.' then some point else if c = 'e' || c = 'E' then some mark else none
  | whole, c =>
    if isDigit c then some whole
    else if c = '.' then some point
    else if c = 'e' || c = 'E' then some mark else none
  | point, c => if isDigit c then some fraction else none
  | fraction, c =>
    if isDigit c then some fraction else if c = 'e' || c = 'E' then some mark else none
  | mark, c => if c = '+' || c = '-' then some sign else if isDigit c then some exponent else none
  | sign, c => if isDigit c then some exponent else none
  | exponent, c => if isDigit c then some exponent else none

/-- Whether a number may end here, before a character that is not `c`. -/
def mayEnd : NumberPhase → Bool
  | zero | whole | fraction | exponent => true
  | minus | point | mark | sign => false

end NumberPhase

namespace Lexer

def emit (l : Lexer) (t : Token) : Lexer := ⟨t :: l.tokens, .between⟩

def turn (l : Lexer) (r : Reading) : Lexer := { l with reading := r }

def malformedScalar : Ending := .brokenScalar .malformed .malformed

/-- A character where a token may begin. -/
def start (l : Lexer) (c : Char) : Lexer :=
  if isSpace c then l.turn .between
  else match c with
  | '[' => l.emit .openBracket
  | ']' => l.emit .closeBracket
  | '{' => l.emit .openBrace
  | '}' => l.emit .closeBrace
  | ',' => l.emit .comma
  | ':' => l.emit .colon
  | '"' => l.turn (.string {})
  | 'n' => l.turn (.word ['u', 'l', 'l'] .null)
  | 't' => l.turn (.word ['r', 'u', 'e'] (.bool true))
  | 'f' => l.turn (.word ['a', 'l', 's', 'e'] (.bool false))
  | '-' => l.turn (.number .minus [c])
  | '0' => l.turn (.number .zero [c])
  | _ => if isDigit c then l.turn (.number .whole [c]) else l.turn (.broken malformedScalar)

/-- A character inside a string. -/
def stringChar (l : Lexer) (s : StringState) (c : Char) : Lexer :=
  match s.phase with
  | .plain =>
    if c = '\\' then l.turn (.string { s with phase := .escape })
    else
      let s := s.settle
      if c = '"' then l.emit s.token
      else if c.toNat < 0x20 then l.turn (.broken (s.ending .malformed))
      else l.turn (.string (s.push c))
  | .escape =>
    if c = 'u' then l.turn (.string { s with phase := .hex 0 4 })
    else
      let s := s.settle
      match escaped? c with
      | some e => l.turn (.string (s.push e))
      | none => l.turn (.broken (s.ending .malformed))
  | .hex value left =>
    match hexValue? c with
    | some d =>
      let value := value * 16 + d
      if left ≤ 1 then l.turn (.string (s.unit value))
      else l.turn (.string { s with phase := .hex value (left - 1) })
    | none => l.turn (.badHex (left - c.utf8Size) s.fault)

/-- Reads one character. -/
def step (l : Lexer) (c : Char) : Lexer :=
  match l.reading with
  | .between => l.start c
  | .word rest token =>
    match rest with
    | [] => l.turn (.broken malformedScalar)
    | d :: rest =>
      if c ≠ d then l.turn (.broken malformedScalar)
      else if rest = [] then l.emit token
      else l.turn (.word rest token)
  | .number phase read =>
    match phase.next? c with
    | some next => l.turn (.number next (c :: read))
    | none =>
      if !phase.mayEnd || isDigit c then l.turn (.broken malformedScalar)
      else (l.emit (.number (String.ofList read.reverse))).start c
  | .string s => l.stringChar s c
  | .badHex due fault => l.turn (.badHex (due - c.utf8Size) fault)
  | .broken _ => l

/-- The tokens and what follows them, when the text ends here. -/
def finish (l : Lexer) : List Token × Ending :=
  match l.reading with
  | .between => (l.tokens.reverse, .complete)
  | .word _ _ => (l.tokens.reverse, .brokenScalar .unfinished .unfinished)
  | .number phase read =>
    if phase.mayEnd then ((Token.number (String.ofList read.reverse) :: l.tokens).reverse, .complete)
    else (l.tokens.reverse, .brokenScalar .unfinished .malformed)
  | .string s => (l.tokens.reverse, s.ending .unfinished)
  | .badHex due fault =>
    let loose := if due = 0 then Fault.malformed else .unfinished
    (l.tokens.reverse, .brokenString (fault.getD loose) loose)
  | .broken ending => (l.tokens.reverse, ending)

end Lexer

/-- The tokens of a text, and what follows the last of them. -/
def tokens (text : List Char) : List Token × Ending :=
  (text.foldl Lexer.step {}).finish

end DependencyAudit.Json
