import DependencyAudit.Json.Document
import DependencyAudit.Proofs.Text.Runs

/-!
The grammar of JSON texts. A value is written as a list of tokens, each of them in one of its
spellings, with blanks around them as one likes.
-/
namespace DependencyAudit.Json

open Text

variable {ts us : List Token} {t : Token} {cs ds blanks text rest : List Char}

def digits : List Char := "0123456789".toList

/-- A decimal digit. -/
def digit (c : Char) : Bool := digits.contains c

/-- Digits without a zero in front, or a lone zero. -/
inductive Whole : List Char → Prop
  | zero : Whole ['0']
  | digits {d : Char} {ds : List Char} :
    digit d = true → d ≠ '0' → Run digit ds → Whole (d :: ds)

inductive Fraction : List Char → Prop
  | absent : Fraction []
  | digits {ds : List Char} : ds ≠ [] → Run digit ds → Fraction ('.' :: ds)

inductive Exponent : List Char → Prop
  | absent : Exponent []
  | digits {mark : Char} {sign ds : List Char} : mark = 'e' ∨ mark = 'E' →
    sign = [] ∨ sign = ['+'] ∨ sign = ['-'] → ds ≠ [] → Run digit ds →
    Exponent (mark :: (sign ++ ds))

def IsNumber (cs : List Char) : Prop :=
  ∃ sign whole fraction exponent, cs = sign ++ whole ++ fraction ++ exponent ∧
    (sign = [] ∨ sign = ['-']) ∧ Whole whole ∧ Fraction fraction ∧ Exponent exponent

/-- What one place of a string holds: a character, or sixteen bits, which may be half of one. -/
inductive StringUnit
  | char (c : Char)
  | bits (n : Nat)

/-- The hexadecimal digits, in small and in capital letters, with what they are worth. -/
def hexDigits : List (Char × Nat) :=
  "0123456789abcdef".toList.zipIdx ++ "ABCDEF".toList.zipIdx 10

def hexDigit? (c : Char) : Option Nat := hexDigits.lookup c

/-- The number that hexadecimal digits are. -/
def hexNumber? (ds : List Char) : Option Nat :=
  ds.foldlM (fun n d => (hexDigit? d).map (n * 16 + ·)) 0

/-- What a backslash and a character stand for. -/
def escapes : List (Char × Char) :=
  [('"', '\x22'), ('\\', '\x5c'), ('/', '\x2f'), ('b', '\x08'), ('f', '\x0c'), ('n', '\x0a'),
    ('r', '\x0d'), ('t', '\x09')]

inductive StringUnit.Spelled : StringUnit → List Char → Prop
  | plain {c : Char} : c ≠ '"' → c ≠ '\\' → 0x20 ≤ c.toNat → Spelled (.char c) [c]
  | escape {c e : Char} : (c, e) ∈ escapes → Spelled (.char e) ['\\', c]
  | hex {ds : List Char} {n : Nat} : ds.length = 4 → hexNumber? ds = some n →
    Spelled (.bits n) ('\\' :: 'u' :: ds)

/-- The spellings of units one after the other. -/
inductive Spelling : List StringUnit → List Char → Prop
  | nil : Spelling [] []
  | cons {u : StringUnit} {us : List StringUnit} {cs rest : List Char} :
    u.Spelled cs → Spelling us rest → Spelling (u :: us) (cs ++ rest)

/-- The halves in which a character is written whose number takes more than sixteen bits: each holds
ten bits of what the number is above 0x10000. -/
def Halves (lead trail : Nat) (c : Char) : Prop :=
  ∃ high low, high < 0x400 ∧ low < 0x400 ∧ lead = 0xD800 + high ∧ trail = 0xDC00 + low ∧
    c.toNat = 0x10000 + high * 0x400 + low

/-- The characters that units stand for. Sixteen bits alone are the character with that number. -/
inductive Stands : List StringUnit → List Char → Prop
  | nil : Stands [] []
  | char (c : Char) {us : List StringUnit} {cs : List Char} : Stands us cs →
    Stands (.char c :: us) (c :: cs)
  | bits {c : Char} {n : Nat} {us : List StringUnit} {cs : List Char} : c.toNat = n →
    Stands us cs → Stands (.bits n :: us) (c :: cs)
  | halves {c : Char} {lead trail : Nat} {us : List StringUnit} {cs : List Char} :
    Halves lead trail c → Stands us cs → Stands (.bits lead :: .bits trail :: us) (c :: cs)

/-- How a token may be written. -/
inductive Token.Spelled : Token → List Char → Prop
  | openBracket : Spelled .openBracket ['[']
  | closeBracket : Spelled .closeBracket [']']
  | openBrace : Spelled .openBrace ['\x7b']
  | closeBrace : Spelled .closeBrace ['\x7d']
  | comma : Spelled .comma [',']
  | colon : Spelled .colon [':']
  | null : Spelled .null "null".toList
  | isTrue : Spelled (.bool true) "true".toList
  | isFalse : Spelled (.bool false) "false".toList
  | number {cs : List Char} : IsNumber cs → Spelled (.number (String.ofList cs)) cs
  | string {us : List StringUnit} {cs content : List Char} : Spelling us cs → Stands us content →
    Spelled (.string (some (String.ofList content))) ('"' :: (cs ++ ['"']))
  | torn {us : List StringUnit} {cs : List Char} : Spelling us cs →
    (∀ content, ¬ Stands us content) → Spelled (.string none) ('"' :: (cs ++ ['"']))

/-- Blanks are spaces, tabs, and line breaks. -/
def Blanks (cs : List Char) : Prop :=
  ∀ c ∈ cs, c = ' ' ∨ c = '\t' ∨ c = '\n' ∨ c = '\r'

/-- A text of tokens, with blanks before, between, and after them. -/
inductive Laid : List Token → List Char → Prop
  | nil {blanks : List Char} : Blanks blanks → Laid [] blanks
  | cons {t : Token} {ts : List Token} {blanks cs rest : List Char} :
    Blanks blanks → t.Spelled cs → Laid ts rest → Laid (t :: ts) (blanks ++ cs ++ rest)

mutual

/-- The tokens of a value. -/
def tokenList : Json → List Token
  | null => [.null]
  | bool b => [.bool b]
  | number spelling => [.number spelling]
  | string content => [.string content]
  | array [] => [.openBracket, .closeBracket]
  | array (item :: items) =>
    .openBracket :: (tokenList item ++ itemTokens items ++ [.closeBracket])
  | object [] => [.openBrace, .closeBrace]
  | object ((name, value) :: members) =>
    .openBrace :: .string name :: .colon ::
      (tokenList value ++ memberTokens members ++ [.closeBrace])

/-- The tokens of the items after the first. -/
def itemTokens : List Json → List Token
  | [] => []
  | item :: items => .comma :: (tokenList item ++ itemTokens items)

/-- The tokens of the members after the first. -/
def memberTokens : List (Option String × Json) → List Token
  | [] => []
  | (name, value) :: members =>
    .comma :: .string name :: .colon :: (tokenList value ++ memberTokens members)

end

/-- The text is a JSON text of the value, and holds nothing else. -/
def Spells (value : Json) (text : List Char) : Prop := Laid value.tokenList text

theorem blanks_nil : Blanks [] := by
  intro c hc
  exact (List.not_mem_nil hc).elim

theorem Blanks.append (ha : Blanks cs) (hb : Blanks ds) : Blanks (cs ++ ds) := by
  intro c hc
  obtain hc | hc := List.mem_append.1 hc
  · exact ha c hc
  · exact hb c hc

theorem Laid.blanks_append (hb : Blanks blanks) (h : Laid ts text) : Laid ts (blanks ++ text) := by
  cases h with
  | nil hs => exact .nil (hb.append hs)
  | cons hs ht hrest =>
    rw [← List.append_assoc, ← List.append_assoc]
    exact .cons (hb.append hs) ht hrest

theorem Laid.append (h : Laid ts text) (hrest : Laid us rest) : Laid (ts ++ us) (text ++ rest) := by
  induction h with
  | nil hs => exact hrest.blanks_append hs
  | cons hs ht _ ih =>
    rw [List.append_assoc]
    exact .cons hs ht ih

theorem laid_singleton (h : t.Spelled cs) : Laid [t] cs := by
  have hl : Laid [t] ([] ++ cs ++ []) := .cons blanks_nil h (.nil blanks_nil)
  rwa [List.nil_append, List.append_nil] at hl

theorem Laid.snoc (h : Laid ts text) (ht : t.Spelled cs) : Laid (ts ++ [t]) (text ++ cs) :=
  h.append (laid_singleton ht)

theorem Laid.append_blanks (h : Laid ts text) (hb : Blanks blanks) : Laid ts (text ++ blanks) := by
  have hl := h.append (Laid.nil hb)
  rwa [List.append_nil] at hl

theorem Spelling.append {vs ws : List StringUnit} (h : Spelling vs text)
    (hrest : Spelling ws rest) : Spelling (vs ++ ws) (text ++ rest) := by
  induction h with
  | nil => exact hrest
  | cons hu _ ih =>
    rw [List.append_assoc]
    exact .cons hu ih

theorem Spelling.snoc {vs : List StringUnit} {u : StringUnit} (h : Spelling vs text)
    (hu : u.Spelled cs) : Spelling (vs ++ [u]) (text ++ cs) := by
  have hl : Spelling [u] (cs ++ []) := .cons hu .nil
  rw [List.append_nil] at hl
  exact h.append hl

end DependencyAudit.Json
