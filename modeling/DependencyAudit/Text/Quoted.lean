import DependencyAudit.Text.PrintableRanges
import DependencyAudit.Text.ExtenderRanges

/-! A text between quotation marks, with every character that would not show written as an escape. -/
namespace DependencyAudit.Text

/-- A character that stands for itself: printable, and not joined to the character before it. -/
def isPlain (c : Char) : Bool :=
  printableRanges.covers c.toNat && !extenderRanges.covers c.toNat

/-- Digits of base sixteen in lower case, without leading zeros. -/
def hexDigits (n : Nat) : List Char := Nat.toDigits 16 n

/-- How a character stands between quotation marks. -/
def quoteChar (c : Char) : List Char :=
  if c = '\x00' then ['\\', '0']
  else if c = '\t' then ['\\', 't']
  else if c = '\r' then ['\\', 'r']
  else if c = '\n' then ['\\', 'n']
  else if c = '"' then ['\\', '"']
  else if c = '\\' then ['\\', '\\']
  else if isPlain c then [c]
  else ['\\', 'u', '\x7b'] ++ hexDigits c.toNat ++ ['\x7d']

def quoted (text : String) : String :=
  String.ofList ('"' :: text.toList.flatMap quoteChar ++ ['"'])

end DependencyAudit.Text
