/-!
The shortest decimal number that reads back as a given double: of the numbers with the fewest digits
between the midpoints to the neighbouring doubles, the one nearest to the double.
-/
namespace DependencyAudit.Decimal

/-- A positive rational number. -/
structure Ratio where
  num : Nat
  den : Nat

def Ratio.le (a b : Ratio) : Bool := decide (a.num * b.den ≤ b.num * a.den)

def Ratio.lt (a b : Ratio) : Bool := decide (a.num * b.den < b.num * a.den)

/-- `n · base ^ e`. -/
def Ratio.scaled (n base : Nat) (e : Int) : Ratio :=
  if 0 ≤ e then ⟨n * Nat.pow base e.toNat, 1⟩ else ⟨n, Nat.pow base (-e).toNat⟩

/-- A positive double `mantissa · 2 ^ power`. -/
structure Binary where
  mantissa : Nat
  power : Int

/-- The least mantissa of a double that is not too small to have all its bits. -/
def fullMantissa : Nat := Nat.pow 2 52

/-- The weight of the sign among the bits of a double. -/
def signBit : Nat := Nat.pow 2 63

/-- The double with the given bits, which are those of a positive finite one. -/
def Binary.ofBits (bits : Nat) : Binary :=
  let fraction := bits % fullMantissa
  let biased := bits / fullMantissa % 2048
  if biased = 0 then ⟨fraction, -1074⟩ else ⟨fullMantissa + fraction, (biased : Int) - 1075⟩

def Binary.value (b : Binary) : Ratio := .scaled b.mantissa 2 b.power

/-- The midpoint to the next double. -/
def Binary.upper (b : Binary) : Ratio := .scaled (2 * b.mantissa + 1) 2 (b.power - 1)

/-- The midpoint to the double before, which is nearer below a power of two. -/
def Binary.lower (b : Binary) : Ratio :=
  if b.mantissa = fullMantissa ∧ -1074 < b.power then .scaled (4 * b.mantissa - 1) 2 (b.power - 2)
  else .scaled (2 * b.mantissa - 1) 2 (b.power - 1)

/-- Whether a number reads back as the double; a midpoint reads as the double with the even
mantissa. -/
def Binary.readsBack (b : Binary) (r : Ratio) : Bool :=
  if b.mantissa % 2 = 0 then b.lower.le r && r.le b.upper else b.lower.lt r && r.lt b.upper

/-- `digits · 10 ^ exponent`. -/
structure Scientific where
  digits : Nat
  exponent : Int

def Scientific.value (d : Scientific) : Ratio := .scaled d.digits 10 d.exponent

/-- The greatest `e` from `top` downwards with `10 ^ e ≤ r`, looking at `steps` exponents. -/
def magnitude (r : Ratio) (top : Int) : Nat → Int
  | 0 => top
  | steps + 1 => if (Ratio.scaled 1 10 top).le r then top else magnitude r (top - 1) steps

/-- Of two numbers around `r` the nearer, of two equally near ones the even. -/
def nearer (r : Ratio) (below above : Scientific) : Scientific :=
  let a := below.value
  let b := above.value
  -- `r - a` against `b - r`, over the common denominator
  let left := r.num * a.den * b.den * 2
  let right := (a.num * b.den + b.num * a.den) * r.den
  if left < right then below
  else if right < left then above
  else if below.digits % 2 = 0 then below else above

/-- The number that reads back on the grid of the multiples of `10 ^ exponent`, if there is one. -/
def Binary.onGrid? (b : Binary) (exponent : Int) : Option Scientific :=
  let r := b.value
  let unit := Ratio.scaled 1 10 exponent
  let n := r.num * unit.den / (r.den * unit.num)
  let below : Scientific := ⟨n, exponent⟩
  let above : Scientific := ⟨n + 1, exponent⟩
  match 0 < n && b.readsBack below.value, b.readsBack above.value with
  | true, true => some (nearer r below above)
  | true, false => some below
  | false, true => some above
  | false, false => none

/-- The first number found on ever finer grids. -/
def Binary.search (b : Binary) (exponent : Int) : Nat → Scientific
  | 0 => ⟨0, 0⟩
  | grids + 1 =>
    match b.onGrid? exponent with
    | some d => d
    | none => b.search (exponent - 1) grids

/-- Moves zeros at the end of the digits into the exponent. -/
def Scientific.dropZeros (d : Scientific) : Nat → Scientific
  | 0 => d
  | steps + 1 =>
    if d.digits ≠ 0 ∧ d.digits % 10 = 0 then Scientific.dropZeros ⟨d.digits / 10, d.exponent + 1⟩ steps
    else d

/-- The shortest number for a positive double: 17 digits always suffice. -/
def Binary.shortest (b : Binary) : Scientific :=
  (b.search (magnitude b.value 308 633) 17).dropZeros 18

/-- The text of a decimal number: positional if the point stands among the first sixteen digits or
at most four zeros before them, else with an exponent, which always has a sign. -/
def Scientific.text (d : Scientific) : List Char :=
  let ds := Nat.toDigits 10 d.digits
  let point : Int := ds.length + d.exponent
  if 0 ≤ d.exponent ∧ point ≤ 16 then ds ++ List.replicate d.exponent.toNat '0' ++ ['.', '0']
  else if 0 < point ∧ point ≤ 16 then ds.take point.toNat ++ '.' :: ds.drop point.toNat
  else if -5 < point ∧ point ≤ 0 then '0' :: '.' :: List.replicate (-point).toNat '0' ++ ds
  else
    let head := if ds.length = 1 then ds else ds.take 1 ++ '.' :: ds.drop 1
    let sign := if 0 < point then ['+'] else []
    head ++ 'e' :: sign ++ (toString (point - 1)).toList

/-- The text of a finite double. -/
def floatText (f : Float) : String :=
  let bits := f.toBits.toNat
  let magnitude := bits % signBit
  let sign := if signBit ≤ bits then ['-'] else []
  String.ofList (sign ++
    if magnitude = 0 then ['0', '.', '0'] else (Binary.ofBits magnitude).shortest.text)

end DependencyAudit.Decimal
