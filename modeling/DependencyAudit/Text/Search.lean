/-! One text at the start of another, and inside it. -/
namespace DependencyAudit.Text

/-- What follows `lead` at the start of a list. -/
def afterLead? {α : Type} [DecidableEq α] : List α → List α → Option (List α)
  | [], rest => some rest
  | _ :: _, [] => none
  | a :: lead, b :: rest => if a = b then afterLead? lead rest else none

theorem eq_append_of_afterLead? {α : Type} [DecidableEq α] {lead cs rest : List α}
    (h : afterLead? lead cs = some rest) : cs = lead ++ rest := by
  induction lead generalizing cs with
  | nil => simpa [afterLead?] using h
  | cons a lead ih =>
    cases cs with
    | nil => simp [afterLead?] at h
    | cons b cs =>
      simp only [afterLead?] at h
      split at h
      · rename_i hab
        rw [hab, ih h, List.cons_append]
      · simp at h

theorem afterLead?_append {α : Type} [DecidableEq α] (lead rest : List α) :
    afterLead? lead (lead ++ rest) = some rest := by
  induction lead with
  | nil => rfl
  | cons a lead ih => simpa [afterLead?] using ih

/-- Whether the characters of `part` stand one after the other somewhere in the text. -/
def holds (part : List Char) : List Char → Bool
  | [] => part.isEmpty
  | c :: cs => (afterLead? part (c :: cs)).isSome || holds part cs

theorem holds_eq_true_iff {part cs : List Char} :
    holds part cs = true ↔ ∃ before rest, cs = before ++ part ++ rest := by
  induction cs with
  | nil => simp [holds]
  | cons c cs ih =>
    simp only [holds, Bool.or_eq_true, ih, Option.isSome_iff_exists]
    constructor
    · rintro (⟨rest, h⟩ | ⟨before, rest, h⟩)
      · exact ⟨[], rest, eq_append_of_afterLead? h⟩
      · exact ⟨c :: before, rest, by simp [h]⟩
    · rintro ⟨_ | ⟨b, before⟩, rest, h⟩
      · exact .inl ⟨rest, by rw [h]; exact afterLead?_append part rest⟩
      · simp only [List.cons_append, List.cons.injEq] at h
        exact .inr ⟨before, rest, h.2⟩

end DependencyAudit.Text
