/-!
Reading bytes as UTF-8. A strict reading accepts well-formed bytes only; a lenient one puts a
replacement character for every longest piece that could have begun a character but did not end one.
-/
namespace DependencyAudit.Text

/-- The text that the bytes encode, if they are well-formed. -/
def ofBytes? (bytes : ByteArray) : Option String := String.fromUTF8? bytes

def replacement : Char := '\uFFFD'

/-- A character begun: the continuation bytes still due, the bounds of the next one, and the bits
read so far. -/
structure Partial where
  due : Nat
  low : Nat
  high : Nat
  bits : Nat

/-- The characters read, last one first, and the character begun. -/
structure Decoding where
  read : List Char := []
  begun : Option Partial := none

/-- A byte where a character may begin. -/
def Decoding.lead (d : Decoding) (b : Nat) : Decoding :=
  let start (due low high bits : Nat) : Decoding := ⟨d.read, some ⟨due, low, high, bits⟩⟩
  if b < 0x80 then ⟨Char.ofNat b :: d.read, none⟩
  else if b < 0xC2 then ⟨replacement :: d.read, none⟩
  else if b < 0xE0 then start 1 0x80 0xBF (b - 0xC0)
  else if b = 0xE0 then start 2 0xA0 0xBF 0
  else if b = 0xED then start 2 0x80 0x9F 0xD
  else if b < 0xF0 then start 2 0x80 0xBF (b - 0xE0)
  else if b = 0xF0 then start 3 0x90 0xBF 0
  else if b < 0xF4 then start 3 0x80 0xBF (b - 0xF0)
  else if b = 0xF4 then start 3 0x80 0x8F 4
  else ⟨replacement :: d.read, none⟩

/-- A byte that does not continue the character begun ends it there and is read anew. -/
def Decoding.byte (d : Decoding) (b : Nat) : Decoding :=
  match d.begun with
  | none => d.lead b
  | some p =>
    if p.low ≤ b ∧ b ≤ p.high then
      let bits := p.bits * 64 + (b - 0x80)
      if p.due ≤ 1 then ⟨Char.ofNat bits :: d.read, none⟩
      else ⟨d.read, some ⟨p.due - 1, 0x80, 0xBF, bits⟩⟩
    else Decoding.lead ⟨replacement :: d.read, none⟩ b

def Decoding.finish (d : Decoding) : List Char :=
  match d.begun with
  | none => d.read.reverse
  | some _ => (replacement :: d.read).reverse

/-- The text that the bytes encode, with replacement characters for what is not well-formed. -/
def ofBytesLenient (bytes : ByteArray) : String :=
  String.ofList (bytes.toList.foldl (fun (d : Decoding) b => d.byte b.toNat) {}).finish

end DependencyAudit.Text
