import DependencyAudit.Text.Classes
import DependencyAudit.Text.Search

/-!
Import declarations of Swift at the start of a source line: attributes, the word `import`, an
optional kind of the imported declaration, and the module, which is the longest word there.
-/
namespace DependencyAudit.ImportLine

open Text

/-- The kinds of declaration that may stand between `import` and the module. -/
def kinds : List (List Char) :=
  ["typealias", "struct", "class", "enum", "protocol", "let", "var", "func"].map String.toList

def keyword : List Char := "import".toList

/-- The attributes without an argument. -/
def plainAttributes : List (List Char) := ["@_exported", "@testable"].map String.toList

def interfaceAttribute : List Char := "@_spi(".toList

/-- What follows a run of at least one blank. -/
def afterBlanks? : List Char → Option (List Char)
  | [] => none
  | c :: cs => if isBlank c then some (cs.dropWhile isBlank) else none

/-- The longest word at the start, if there is one, and what follows it. -/
def word? (cs : List Char) : Option (List Char × List Char) :=
  match cs.takeWhile isWord with
  | [] => none
  | word => some (word, cs.dropWhile isWord)

/-- What follows an attribute at the start. -/
def afterAttribute? (cs : List Char) : Option (List Char) :=
  match plainAttributes.findSome? (afterLead? · cs) with
  | some rest => some rest
  | none => do
    let rest ← afterLead? interfaceAttribute cs
    let (_, rest) ← word? rest
    afterLead? [')'] rest

/-- An attribute counts only with blanks after it. -/
def afterSpacedAttribute? (cs : List Char) : Option (List Char) :=
  (afterAttribute? cs).bind afterBlanks?

theorem length_dropWhile_le (p : Char → Bool) (cs : List Char) :
    (cs.dropWhile p).length ≤ cs.length :=
  (List.dropWhile_suffix p).length_le

theorem length_afterBlanks? {cs rest : List Char} (h : afterBlanks? cs = some rest) :
    rest.length < cs.length := by
  cases cs with
  | nil => simp [afterBlanks?] at h
  | cons c cs =>
    simp only [afterBlanks?] at h
    split at h
    · cases h
      exact Nat.lt_succ_of_le (length_dropWhile_le isBlank cs)
    · simp at h

theorem length_word? {cs word rest : List Char} (h : word? cs = some (word, rest)) :
    rest.length ≤ cs.length := by
  simp only [word?] at h
  split at h
  · simp at h
  · cases h
    exact length_dropWhile_le isWord cs

theorem length_afterAttribute? {cs rest : List Char} (h : afterAttribute? cs = some rest) :
    rest.length ≤ cs.length := by
  simp only [afterAttribute?] at h
  split at h
  · rename_i found
    cases h
    obtain ⟨lead, _, hl⟩ := List.exists_of_findSome?_eq_some found
    rw [eq_append_of_afterLead? hl, List.length_append]
    exact Nat.le_add_left _ _
  · simp only [Option.bind_eq_bind, Option.bind_eq_some_iff] at h
    obtain ⟨a, ha, ⟨w, b⟩, hb, hc⟩ := h
    have hw := length_word? hb
    rw [eq_append_of_afterLead? ha, List.length_append]
    rw [show b = _ from eq_append_of_afterLead? hc, List.length_append] at hw
    omega

theorem length_afterSpacedAttribute? {cs rest : List Char}
    (h : afterSpacedAttribute? cs = some rest) : rest.length < cs.length := by
  obtain ⟨a, ha, hr⟩ := Option.bind_eq_some_iff.1 h
  exact Nat.lt_of_lt_of_le (length_afterBlanks? hr) (length_afterAttribute? ha)

/-- What remains when attributes and the blanks after them are taken off as long as possible. -/
def afterAttributes (cs : List Char) : List Char :=
  match _h : afterSpacedAttribute? cs with
  | some rest => afterAttributes rest
  | none => cs
termination_by cs.length
decreasing_by exact length_afterSpacedAttribute? _h

/-- The module after the word `import` and its blanks. A kind counts as one only if blanks and a
further word follow; otherwise it is itself the module. -/
def imported? (cs : List Char) : Option (List Char) := do
  let (word, rest) ← word? cs
  if word ∈ kinds then
    match (afterBlanks? rest).bind word? with
    | some (next, _) => some next
    | none => some word
  else some word

/-- The module that a line imports, if it is an import declaration. -/
def moduleOf? (line : List Char) : Option (List Char) := do
  let rest ← afterLead? keyword (afterAttributes (line.dropWhile isBlank))
  imported? (← afterBlanks? rest)

/-- The module that a line of source imports. -/
def module? (line : String) : Option String :=
  (moduleOf? line.toList).map String.ofList

end DependencyAudit.ImportLine
