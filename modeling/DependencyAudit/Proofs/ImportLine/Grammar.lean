import DependencyAudit.ImportLine
import DependencyAudit.Proofs.Text.Runs

/-!
The grammar of import declarations, in runs of blanks and words. A line is cut into its attributes
and what remains, and what remains into the word `import`, a word, and perhaps a second word; blanks
are never words, so that there is one way to do it, and the reader finds it.
-/
namespace DependencyAudit.ImportLine

open Text

variable {cs rest mid line w next tail m : List Char}

inductive Attribute : List Char → Prop
  | exported : Attribute "@_exported".toList
  | testable : Attribute "@testable".toList
  | interface {name : List Char} : name ≠ [] → Run isWord name →
    Attribute ("@_spi(".toList ++ name ++ ")".toList)

/-- An attribute at the start, all the blanks after it, of which there are some, and the rest. -/
def Spaced (cs rest : List Char) : Prop :=
  ∃ lead blanks, cs = lead ++ blanks ++ rest ∧ Attribute lead ∧
    blanks ≠ [] ∧ Run isBlank blanks ∧ Stops isBlank rest

/-- What remains when spaced attributes are taken off as long as there is one. -/
inductive Strips : List Char → List Char → Prop
  | done {cs : List Char} : (¬ ∃ rest, Spaced cs rest) → Strips cs cs
  | step {cs mid rest : List Char} : Spaced cs mid → Strips mid rest → Strips cs rest

/-- What remains of a line without the blanks and the spaced attributes at its start. -/
def Remains (line rest : List Char) : Prop :=
  ∃ blanks mid, line = blanks ++ mid ∧ Run isBlank blanks ∧ Stops isBlank mid ∧ Strips mid rest

/-- The word `import`, blanks, a whole word, and the rest. -/
def Imports (cs w tail : List Char) : Prop :=
  ∃ blanks, cs = "import".toList ++ blanks ++ w ++ tail ∧ blanks ≠ [] ∧ Run isBlank blanks ∧
    w ≠ [] ∧ Run isWord w ∧ Stops isWord tail

/-- Blanks and a whole word after them. -/
def GoesOn (tail next : List Char) : Prop :=
  ∃ blanks rest, tail = blanks ++ next ++ rest ∧ blanks ≠ [] ∧ Run isBlank blanks ∧
    next ≠ [] ∧ Run isWord next ∧ Stops isWord rest

/-- The kinds of declaration that may be named. -/
inductive Kind : List Char → Prop
  | typealias : Kind "typealias".toList
  | struct : Kind "struct".toList
  | class : Kind "class".toList
  | enum : Kind "enum".toList
  | protocol : Kind "protocol".toList
  | let : Kind "let".toList
  | var : Kind "var".toList
  | func : Kind "func".toList

/-- The module is the word after `import`, unless that is the kind of what the next word names. -/
inductive Declares (cs : List Char) : List Char → Prop
  | plain {w tail : List Char} : Imports cs w tail → ¬ (Kind w ∧ ∃ next, GoesOn tail next) →
    Declares cs w
  | ofKind {w tail next : List Char} : Imports cs w tail → Kind w → GoesOn tail next →
    Declares cs next

theorem kind_iff : Kind w ↔ w ∈ kinds := by
  constructor
  · intro h
    cases h <;> decide
  · intro h
    simp only [kinds, List.map_cons, List.map_nil, List.mem_cons, List.not_mem_nil, or_false] at h
    obtain rfl | rfl | rfl | rfl | rfl | rfl | rfl | rfl := h
    · exact .typealias
    · exact .struct
    · exact .class
    · exact .enum
    · exact .protocol
    · exact .let
    · exact .var
    · exact .func

theorem word?_eq_some_iff :
    word? cs = some (w, rest) ↔ cs = w ++ rest ∧ w ≠ [] ∧ Run isWord w ∧ Stops isWord rest := by
  constructor
  · intro h
    simp only [word?] at h
    split at h
    · cases h
    · rename_i hne
      cases h
      exact ⟨List.takeWhile_append_dropWhile.symm, hne, run_takeWhile isWord cs,
        stops_dropWhile isWord cs⟩
  · rintro ⟨rfl, hne, hr, hs⟩
    rw [word?, takeWhile_append_of_run hr hs, dropWhile_append_of_run hr hs]
    split
    · exact absurd rfl hne
    · rfl

theorem afterBlanks?_eq_some_iff : afterBlanks? cs = some rest ↔
    ∃ blanks, cs = blanks ++ rest ∧ blanks ≠ [] ∧ Run isBlank blanks ∧ Stops isBlank rest := by
  constructor
  · intro h
    cases cs with
    | nil => simp [afterBlanks?] at h
    | cons c cs =>
      simp only [afterBlanks?] at h
      split at h
      · rename_i hc
        cases h
        refine ⟨c :: cs.takeWhile isBlank, by simp, by simp, ?_, stops_dropWhile isBlank cs⟩
        intro d hd
        obtain rfl | hd := List.mem_cons.1 hd
        · exact hc
        · exact run_takeWhile isBlank cs d hd
      · cases h
  · rintro ⟨blanks, rfl, hne, hr, hs⟩
    cases blanks with
    | nil => exact absurd rfl hne
    | cons c blanks =>
      have hrest : Run isBlank blanks := fun d hd => hr d (List.mem_cons_of_mem c hd)
      rw [List.cons_append, afterBlanks?, if_pos (hr c List.mem_cons_self),
        dropWhile_append_of_run hrest hs]

theorem afterAttribute?_eq_some_iff :
    afterAttribute? cs = some rest ↔ ∃ lead, Attribute lead ∧ cs = lead ++ rest := by
  constructor
  · intro h
    simp only [afterAttribute?] at h
    split at h
    · rename_i found
      cases h
      obtain ⟨lead, hlead, hrest⟩ := List.exists_of_findSome?_eq_some found
      refine ⟨lead, ?_, afterLead?_eq_some_iff.1 hrest⟩
      simp only [plainAttributes, List.map_cons, List.map_nil, List.mem_cons, List.not_mem_nil,
        or_false] at hlead
      obtain rfl | rfl := hlead
      · exact .exported
      · exact .testable
    · simp only [Option.bind_eq_bind, Option.bind_eq_some_iff] at h
      obtain ⟨a, ha, ⟨name, b⟩, hb, hc⟩ := h
      obtain ⟨rfl, hne, hr, _⟩ := word?_eq_some_iff.1 hb
      have hclose : b = ")".toList ++ rest := afterLead?_eq_some_iff.1 hc
      refine ⟨_, .interface hne hr, ?_⟩
      rw [afterLead?_eq_some_iff.1 ha, hclose, List.append_assoc, List.append_assoc]
      rfl
  · rintro ⟨lead, ha, rfl⟩
    cases ha with
    | exported => rfl
    | testable => rfl
    | @interface name hne hr =>
      have hstops : Stops isWord (')' :: rest) := by
        rintro _ ⟨⟩
        decide
      have hword : word? (name ++ ')' :: rest) = some (name, ')' :: rest) :=
        word?_eq_some_iff.2 ⟨rfl, hne, hr, hstops⟩
      have hread : afterAttribute? ("@_spi(".toList ++ name ++ ")".toList ++ rest) =
          (word? (name ++ ')' :: rest)).bind fun read => afterLead? [')'] read.2 := by
        rw [List.append_assoc, List.append_assoc]
        rfl
      rw [hread, hword]
      rfl

theorem afterSpacedAttribute?_eq_some_iff :
    afterSpacedAttribute? cs = some rest ↔ Spaced cs rest := by
  rw [afterSpacedAttribute?, Option.bind_eq_some_iff]
  constructor
  · rintro ⟨mid, ha, hb⟩
    obtain ⟨lead, hlead, rfl⟩ := afterAttribute?_eq_some_iff.1 ha
    obtain ⟨blanks, rfl, hne, hr, hs⟩ := afterBlanks?_eq_some_iff.1 hb
    exact ⟨lead, blanks, (List.append_assoc _ _ _).symm, hlead, hne, hr, hs⟩
  · rintro ⟨lead, blanks, rfl, ha, hne, hr, hs⟩
    exact ⟨blanks ++ rest, afterAttribute?_eq_some_iff.2 ⟨lead, ha, List.append_assoc _ _ _⟩,
      afterBlanks?_eq_some_iff.2 ⟨blanks, rfl, hne, hr, hs⟩⟩

theorem afterAttributes_of_some (h : afterSpacedAttribute? cs = some rest) :
    afterAttributes cs = afterAttributes rest := by
  rw [afterAttributes]
  split
  · rename_i found
    rw [h] at found
    cases found
    rfl
  · rename_i found
    rw [h] at found
    cases found

theorem afterAttributes_of_none (h : afterSpacedAttribute? cs = none) : afterAttributes cs = cs := by
  rw [afterAttributes]
  split
  · rename_i found
    rw [h] at found
    cases found
  · rfl

theorem strips_iff : Strips cs rest ↔ rest = afterAttributes cs := by
  constructor
  · intro h
    induction h with
    | @done cs hnone =>
      refine (afterAttributes_of_none ?_).symm
      refine Option.eq_none_iff_forall_ne_some.2 fun rest hrest => ?_
      exact hnone ⟨rest, afterSpacedAttribute?_eq_some_iff.1 hrest⟩
    | step hspaced _ ih =>
      rw [ih, afterAttributes_of_some (afterSpacedAttribute?_eq_some_iff.2 hspaced)]
  · rintro rfl
    induction cs using afterAttributes.induct with
    | case1 cs rest h ih =>
      rw [afterAttributes_of_some h]
      exact .step (afterSpacedAttribute?_eq_some_iff.1 h) ih
    | case2 cs h =>
      rw [afterAttributes_of_none h]
      refine .done ?_
      rintro ⟨rest, hspaced⟩
      rw [afterSpacedAttribute?_eq_some_iff.2 hspaced] at h
      cases h

/-- Exactly one text remains of a line. -/
theorem remains_iff : Remains line rest ↔ rest = afterAttributes (line.dropWhile isBlank) := by
  constructor
  · rintro ⟨blanks, mid, rfl, hr, hs, hstrips⟩
    rw [dropWhile_append_of_run hr hs]
    exact strips_iff.1 hstrips
  · rintro rfl
    exact ⟨line.takeWhile isBlank, line.dropWhile isBlank,
      List.takeWhile_append_dropWhile.symm, run_takeWhile isBlank line,
      stops_dropWhile isBlank line, strips_iff.2 rfl⟩

theorem imports_iff : Imports cs w tail ↔
    ((afterLead? keyword cs).bind afterBlanks?).bind word? = some (w, tail) := by
  simp only [Option.bind_eq_some_iff]
  constructor
  · rintro ⟨blanks, rfl, hne, hr, hw, hword, hs⟩
    refine ⟨w ++ tail, ⟨blanks ++ (w ++ tail), ?_, ?_⟩, word?_eq_some_iff.2 ⟨rfl, hw, hword, hs⟩⟩
    · rw [afterLead?_eq_some_iff, List.append_assoc, List.append_assoc]
      rfl
    · exact afterBlanks?_eq_some_iff.2 ⟨blanks, rfl, hne, hr, stops_isBlank_append hw hword⟩
  · rintro ⟨b, ⟨a, ha, hb⟩, hc⟩
    obtain ⟨rfl, hw, hword, hs⟩ := word?_eq_some_iff.1 hc
    obtain ⟨blanks, rfl, hne, hr, _⟩ := afterBlanks?_eq_some_iff.1 hb
    refine ⟨blanks, ?_, hne, hr, hw, hword, hs⟩
    rw [afterLead?_eq_some_iff.1 ha, List.append_assoc, List.append_assoc]
    rfl

theorem goesOn_iff : GoesOn tail next ↔
    ∃ rest, (afterBlanks? tail).bind word? = some (next, rest) := by
  simp only [Option.bind_eq_some_iff]
  constructor
  · rintro ⟨blanks, rest, rfl, hne, hr, hw, hword, hs⟩
    refine ⟨rest, next ++ rest, ?_, word?_eq_some_iff.2 ⟨rfl, hw, hword, hs⟩⟩
    exact afterBlanks?_eq_some_iff.2
      ⟨blanks, List.append_assoc _ _ _, hne, hr, stops_isBlank_append hw hword⟩
  · rintro ⟨rest, mid, hb, hc⟩
    obtain ⟨rfl, hw, hword, hs⟩ := word?_eq_some_iff.1 hc
    obtain ⟨blanks, rfl, hne, hr, _⟩ := afterBlanks?_eq_some_iff.1 hb
    exact ⟨blanks, rest, (List.append_assoc _ _ _).symm, hne, hr, hw, hword, hs⟩

/-- The module, when the word after `import` and what follows it were read. -/
def chosen (w tail : List Char) : List Char :=
  if kinds.contains w then (((afterBlanks? tail).bind word?).map Prod.fst).getD w else w

theorem chosen_of_mem (hw : w ∈ kinds) :
    chosen w tail = (((afterBlanks? tail).bind word?).map Prod.fst).getD w := by
  rw [chosen, if_pos (List.contains_iff_mem.2 hw)]

theorem chosen_of_not_mem (hw : w ∉ kinds) : chosen w tail = w := by
  rw [chosen, if_neg (mt List.contains_iff_mem.1 hw)]

theorem imported?_eq (cs : List Char) :
    imported? cs = (word? cs).map fun read => chosen read.1 read.2 := by
  rw [imported?]
  cases word? cs with
  | none => rfl
  | some read =>
    simp only [Option.bind_eq_bind, Option.bind_some, Option.map_some]
    split
    · rename_i hw
      rw [chosen_of_mem hw]
      cases (afterBlanks? read.2).bind word? <;> rfl
    · rename_i hw
      rw [chosen_of_not_mem hw]

theorem moduleOf?_eq (line : List Char) : moduleOf? line =
    (((afterLead? keyword (afterAttributes (line.dropWhile isBlank))).bind afterBlanks?).bind
      word?).map fun read => chosen read.1 read.2 := by
  rw [moduleOf?]
  cases afterLead? keyword (afterAttributes (line.dropWhile isBlank)) with
  | none => rfl
  | some a =>
    cases hb : afterBlanks? a with
    | none => simp [hb]
    | some b => simp [hb, imported?_eq]

theorem chosen_of_not_goesOn (h : ¬ (Kind w ∧ ∃ next, GoesOn tail next)) : chosen w tail = w := by
  by_cases hw : w ∈ kinds
  · rw [chosen_of_mem hw]
    cases hread : (afterBlanks? tail).bind word? with
    | none => rfl
    | some read => exact absurd ⟨kind_iff.2 hw, read.1, goesOn_iff.2 ⟨read.2, hread⟩⟩ h
  · exact chosen_of_not_mem hw

theorem chosen_of_goesOn (hw : Kind w) (h : GoesOn tail next) : chosen w tail = next := by
  obtain ⟨rest, hread⟩ := goesOn_iff.1 h
  rw [chosen_of_mem (kind_iff.1 hw), hread]
  rfl

theorem declares_iff : Declares cs m ↔ ∃ w tail, Imports cs w tail ∧ chosen w tail = m := by
  constructor
  · intro h
    cases h with
    | plain himports hnot => exact ⟨_, _, himports, chosen_of_not_goesOn hnot⟩
    | ofKind himports hw hnext => exact ⟨_, _, himports, chosen_of_goesOn hw hnext⟩
  · rintro ⟨w, tail, himports, rfl⟩
    by_cases h : Kind w ∧ ∃ next, GoesOn tail next
    · obtain ⟨hw, next, hnext⟩ := h
      rw [chosen_of_goesOn hw hnext]
      exact .ofKind himports hw hnext
    · rw [chosen_of_not_goesOn h]
      exact .plain himports h

/-- The reader finds what the grammar says about the one text that remains of a line. -/
theorem moduleOf?_eq_some_iff (h : Remains line rest) :
    moduleOf? line = some m ↔ Declares rest m := by
  rw [moduleOf?_eq, declares_iff, ← remains_iff.1 h, Option.map_eq_some_iff]
  constructor
  · rintro ⟨⟨w, tail⟩, hread, hm⟩
    exact ⟨w, tail, imports_iff.2 hread, hm⟩
  · rintro ⟨w, tail, himports, hm⟩
    exact ⟨(w, tail), imports_iff.1 himports, hm⟩

end DependencyAudit.ImportLine
