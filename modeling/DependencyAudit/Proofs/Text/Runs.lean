import DependencyAudit.Text.Classes
import DependencyAudit.Text.Search

/-!
Runs of characters of a class. No blank is a character of words, so that a run of the one and a run
of the other stop each other.
-/
namespace DependencyAudit.Text

variable {f : Char → Bool} {run rest cs lead : List Char}

/-- The code points that the ranges cover. -/
def Ranges.codes (rs : Ranges) : List Nat :=
  rs.flatMap fun range => List.range' range.1 (range.2 + 1 - range.1)

theorem Ranges.mem_codes_of_covers {rs : Ranges} {n : Nat} (h : rs.covers n = true) :
    n ∈ rs.codes := by
  induction rs with
  | nil => simp [covers] at h
  | cons range rs ih =>
    obtain ⟨first, last⟩ := range
    rw [codes, List.flatMap_cons, List.mem_append]
    by_cases hlt : n < first
    · simp [covers, hlt] at h
    · simp only [covers, hlt, if_false, Bool.or_eq_true, decide_eq_true_eq] at h
      obtain h | h := h
      · exact Or.inl (List.mem_range'_1.2 (by omega))
      · exact Or.inr (ih h)

theorem isWord_of_isBlank {c : Char} (h : isBlank c = true) : isWord c = false := by
  have hcodes : ∀ n ∈ blankRanges.codes, wordRanges.covers n = false := by decide +kernel
  exact hcodes c.toNat (Ranges.mem_codes_of_covers h)

/-- The text holds only characters of the class. -/
def Run (f : Char → Bool) (cs : List Char) : Prop := ∀ c ∈ cs, f c = true

theorem run_nil : Run f [] := by
  intro c hc
  exact (List.not_mem_nil hc).elim

theorem run_cons {c : Char} (hc : f c = true) (h : Run f cs) : Run f (c :: cs) := by
  intro d hd
  obtain rfl | hd := List.mem_cons.1 hd
  · exact hc
  · exact h d hd

theorem run_append (h : Run f run) (hc : Run f cs) : Run f (run ++ cs) := by
  intro d hd
  obtain hd | hd := List.mem_append.1 hd
  · exact h d hd
  · exact hc d hd

/-- The text does not start with a character of the class. -/
def Stops (f : Char → Bool) (cs : List Char) : Prop := ∀ c ∈ cs.head?, f c = false

theorem run_takeWhile (f : Char → Bool) (cs : List Char) : Run f (cs.takeWhile f) := by
  exact List.all_eq_true.1 List.all_takeWhile

theorem stops_dropWhile (f : Char → Bool) (cs : List Char) : Stops f (cs.dropWhile f) := by
  intro c hc
  have h := List.head?_dropWhile_not f cs
  rw [hc] at h
  exact h

theorem takeWhile_of_stops (h : Stops f rest) : rest.takeWhile f = [] := by
  cases rest with
  | nil => rfl
  | cons c rest => simp [h c rfl]

theorem dropWhile_of_stops (h : Stops f rest) : rest.dropWhile f = rest := by
  cases rest with
  | nil => rfl
  | cons c rest => simp [h c rfl]

theorem takeWhile_append_of_run (hr : Run f run) (hs : Stops f rest) :
    (run ++ rest).takeWhile f = run := by
  rw [List.takeWhile_append_of_pos hr, takeWhile_of_stops hs, List.append_nil]

theorem dropWhile_append_of_run (hr : Run f run) (hs : Stops f rest) :
    (run ++ rest).dropWhile f = rest := by
  rw [List.dropWhile_append_of_pos hr, dropWhile_of_stops hs]

theorem stops_isBlank_append (hne : run ≠ []) (hr : Run isWord run) : Stops isBlank (run ++ rest) := by
  cases run with
  | nil => exact absurd rfl hne
  | cons c run =>
    rintro _ ⟨⟩
    have hc := hr c List.mem_cons_self
    cases hb : isBlank c with
    | false => rfl
    | true => rw [isWord_of_isBlank hb] at hc; exact hc.symm

theorem stops_isWord_append (hne : run ≠ []) (hr : Run isBlank run) :
    Stops isWord (run ++ rest) := by
  cases run with
  | nil => exact absurd rfl hne
  | cons c run =>
    rintro _ ⟨⟩
    exact isWord_of_isBlank (hr c List.mem_cons_self)

theorem afterLead?_eq_some_iff : afterLead? lead cs = some rest ↔ cs = lead ++ rest := by
  constructor
  · exact eq_append_of_afterLead?
  · rintro rfl
    exact afterLead?_append lead rest

end DependencyAudit.Text
