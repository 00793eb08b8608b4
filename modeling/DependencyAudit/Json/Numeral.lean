import DependencyAudit.Json.Token
import DependencyAudit.Json.Lexer
import DependencyAudit.Decimal.Shortest

/-!
The value of a number. A whole number that fits in 64 bits is an integer. Any other is a double: as
many digits as fit in 64 bits are kept, and the result is scaled by one power of ten.
-/
namespace DependencyAudit.Json

inductive Numeral
  | integer (value : Int)
  | floating (value : Float)

/-- Digits kept as a number, and the power of ten to scale it by. `full` tells that a digit did not
fit any more. -/
structure Significand where
  kept : Nat := 0
  scale : Int := 0
  full : Bool := false

def wordLimit : Nat := Nat.pow 2 64

def digitValue (c : Char) : Nat := c.toNat - 0x30

/-- A digit before the point: one that does not fit counts as a zero. -/
def Significand.whole (s : Significand) (c : Char) : Significand :=
  let n := s.kept * 10 + digitValue c
  if s.full || wordLimit ≤ n then { s with scale := s.scale + 1, full := true }
  else { s with kept := n }

/-- A digit after the point: one that does not fit is dropped, with all after it. -/
def Significand.fraction (s : Significand) (c : Char) : Significand :=
  let n := s.kept * 10 + digitValue c
  if s.full || wordLimit ≤ n then { s with full := true }
  else { s with kept := n, scale := s.scale - 1 }

def powerOfTen (e : Nat) : Float := Float.ofScientific 1 false e

/-- Divides by `10 ^ 308` as often as told, or until nothing is left. -/
def scaleDown (f : Float) : Nat → Float
  | 0 => f
  | n + 1 => if f == 0.0 then f else scaleDown (f / powerOfTen 308) n

/-- The digits scaled, unless the result is beyond the doubles. -/
def Significand.float? (kept : Nat) (scale : Int) : Option Float :=
  let f := (UInt64.ofNat kept).toFloat
  if scale < 0 then
    let n := (-scale).toNat
    -- the last division has a divisor of at most `10 ^ 308`
    let steps := (n - 1) / 308
    let g := scaleDown f steps
    some (if g == 0.0 then g else g / powerOfTen (n - steps * 308))
  else if scale ≤ 308 then
    let g := f * powerOfTen scale.toNat
    if g.isInf then none else some g
  else if f == 0.0 then some f else none

/-- The exponent of a number after its mark. -/
def exponentValue (cs : List Char) : Int :=
  match cs with
  | '-' :: ds => -(ds.foldl (fun n c => n * 10 + digitValue c) 0 : Nat)
  | '+' :: ds => (ds.foldl (fun n c => n * 10 + digitValue c) 0 : Nat)
  | ds => (ds.foldl (fun n c => n * 10 + digitValue c) 0 : Nat)

def exponentLimit : Int := (Nat.pow 2 31 : Nat)

/-- The double of the digits and the exponent. An exponent of more than 31 bits gives zero, or none
where the number would be too large. -/
def scaled? (s : Significand) (exponent : Int) : Option Float :=
  if exponentLimit ≤ exponent then if s.kept = 0 then some 0.0 else none
  else if exponent ≤ -exponentLimit then some 0.0
  else Significand.float? s.kept (s.scale + exponent)

/-- The value of an unsigned number without point and exponent. -/
def integer? (negative : Bool) (s : Significand) : Option Int :=
  if s.full then none
  else if !negative then some s.kept
  else if 0 < s.kept ∧ s.kept ≤ wordLimit / 2 then some (-s.kept)
  else none

/-- The value of a number, unless it is beyond the doubles. -/
def numeral? (spelling : List Char) : Option Numeral :=
  let negative := spelling.head? = some '-'
  let cs := if negative then spelling.tail else spelling
  let whole := (cs.takeWhile isDigit).foldl Significand.whole {}
  let rest := cs.dropWhile isDigit
  let double (s : Significand) (exponent : Int) : Option Numeral :=
    (scaled? s exponent).map fun f => .floating (if negative then -f else f)
  match rest with
  | [] =>
    match integer? negative whole with
    | some n => some (.integer n)
    | none => double whole 0
  | c :: rest =>
    if c = '.' then
      let s := (rest.takeWhile isDigit).foldl Significand.fraction { whole with full := false }
      double s (exponentValue ((rest.dropWhile isDigit).drop 1))
    else double whole (exponentValue rest)

/-- Whether a number is within the doubles. -/
def fits (spelling : String) : Bool := (numeral? spelling.toList).isSome

end DependencyAudit.Json
