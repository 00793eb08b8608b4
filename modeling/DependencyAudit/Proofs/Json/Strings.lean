import DependencyAudit.Proofs.Json.Tables

/-!
Reading strings. The state in which a string is being read tells the units read so far, so that the
token at the end holds the characters which they stand for.
-/
namespace DependencyAudit.Json

open Text

variable {s : StringState} {u : StringUnit} {us : List StringUnit} {ts : List Token}
  {cs ds : List Char} {c e : Char} {n : Nat}

namespace StringState

/-- The state after one more unit. -/
def take (s : StringState) : StringUnit → StringState
  | .char c => s.settle.push c
  | .bits n => s.unit n

/-- A first half of a character is kept back only while it is one. -/
def Waits (s : StringState) : Prop := ∀ n ∈ s.lead, isLead n = true

theorem phase_take (s : StringState) (u : StringUnit) : (s.take u).phase = .plain := by
  cases u with
  | char c => rfl
  | bits n =>
    simp only [take, unit]
    split <;> split <;> try rfl
    split <;> rfl

theorem take_phase (s : StringState) (p : StringPhase) (u : StringUnit) :
    take { s with phase := p } u = s.take u := by
  cases u with
  | char c => cases hl : s.lead <;> simp [take, settle, push, blame, hl]
  | bits n => cases hl : s.lead <;> simp [take, unit, push, blame, hl]

theorem waits_take (s : StringState) (u : StringUnit) : (s.take u).Waits := by
  intro n hn
  cases u with
  | char c =>
    cases hl : s.lead <;> simp [take, settle, push, blame, hl] at hn
  | bits m =>
    cases hl : s.lead with
    | some lead => cases ht : isTrail m <;> simp [take, unit, push, blame, hl, ht] at hn
    | none =>
      cases hm : isLead m with
      | true =>
        simp only [take, unit, hl, hm, if_true, Option.mem_def, Option.some.injEq] at hn
        rwa [← hn]
      | false => cases ht : isTrail m <;> simp [take, unit, push, blame, hl, hm, ht] at hn

/-- The content of the string when the units still come. -/
def contentWith (s : StringState) (us : List StringUnit) : Option String :=
  if s.fault.isSome then none
  else (characters? (s.lead.toList.map .bits ++ us)).map fun cs =>
    String.ofList (s.content.reverse ++ cs)

theorem contentWith_push (hl : s.lead = none) (c : Char) (us : List StringUnit) :
    (s.push c).contentWith us = s.contentWith (.char c :: us) := by
  simp [contentWith, push, hl, Function.comp_def]

theorem contentWith_take (hw : s.Waits) (u : StringUnit) (us : List StringUnit) :
    (s.take u).contentWith us = s.contentWith (u :: us) := by
  cases hl : s.lead with
  | none =>
    cases u with
    | char c => simpa [take, settle, hl] using contentWith_push hl c us
    | bits n =>
      cases hn : isLead n with
      | true => simp [take, unit, hl, hn, contentWith]
      | false =>
        cases ht : isTrail n with
        | true => simp [take, unit, hl, hn, ht, contentWith, blame, characters?_trail]
        | false =>
          simp [take, unit, hl, hn, ht, contentWith, push, characters?_bits, Function.comp_def]
  | some lead =>
    have hlead : isLead lead = true := hw lead hl
    cases u with
    | char c =>
      have hnone : characters? (.bits lead :: .char c :: us) = none :=
        characters?_lead hlead (by simp)
      simp [take, settle, hl, contentWith, push, blame, hnone]
    | bits n =>
      cases ht : isTrail n with
      | true =>
        simp [take, unit, hl, ht, contentWith, push, characters?_pair hlead ht, Function.comp_def]
      | false =>
        have hnone : characters? (.bits lead :: .bits n :: us) = none := by
          refine characters?_lead hlead fun m ws h => ?_
          cases h
          exact ht
        simp [take, unit, hl, ht, contentWith, blame, hnone]

theorem contentWith_foldl (hw : s.Waits) (us : List StringUnit) :
    (us.foldl take s).contentWith [] = s.contentWith us := by
  induction us generalizing s with
  | nil => rfl
  | cons u us ih => rw [List.foldl_cons, ih (waits_take s u), contentWith_take hw]

theorem token_settle (hw : s.Waits) : s.settle.token = .string (s.contentWith []) := by
  cases hl : s.lead with
  | none => cases hf : s.fault <;> simp [settle, token, contentWith, characters?, hl, hf]
  | some lead =>
    have hlead : isLead lead = true := hw lead hl
    simp [settle, token, blame, contentWith, characters?, StringUnit.alone?, hl, hlead]

theorem waits_foldl (hw : s.Waits) (us : List StringUnit) : (us.foldl take s).Waits := by
  induction us generalizing s with
  | nil => exact hw
  | cons u us ih => exact ih (waits_take s u)

theorem phase_foldl (hp : s.phase = .plain) (us : List StringUnit) :
    (us.foldl take s).phase = .plain := by
  induction us generalizing s with
  | nil => exact hp
  | cons u us ih => exact ih (phase_take s u)

/-- The token at the end of a string holds the characters of the units read. -/
theorem token_foldl (us : List StringUnit) :
    (us.foldl take {}).settle.token = .string ((characters? us).map String.ofList) := by
  have hw : Waits {} := by simp [Waits]
  rw [token_settle (waits_foldl hw us), contentWith_foldl hw]
  simp [contentWith]

end StringState

open StringState

theorem foldl_step_spelled (h : u.Spelled cs) (hp : s.phase = .plain) :
    cs.foldl Lexer.step ⟨ts, .string s⟩ = ⟨ts, .string (s.take u)⟩ := by
  cases h with
  | @plain c hq hb hc =>
    have hctl : ¬ c.toNat < 0x20 := by omega
    simp [Lexer.step, Lexer.stringChar, Lexer.turn, hp, hq, hb, hctl, take]
  | @escape c e he =>
    rw [← escaped?_eq_some_iff] at he
    have hu : c ≠ 'u' := by
      rintro rfl
      cases he
    rw [← take_phase s .escape]
    simp [Lexer.step, Lexer.stringChar, Lexer.turn, hp, hu, he, take]
  | @hex ds n hlen hn =>
    obtain ⟨a, b, c, d, x, y, z, w, rfl, rfl, hx, hy, hz, hw⟩ := exists_hexDigits hlen hn
    rw [← hexValue?_eq] at hx hy hz hw
    rw [← take_phase s (.hex ((x * 16 + y) * 16 + z) 1)]
    simp [Lexer.step, Lexer.stringChar, Lexer.turn, hp, hx, hy, hz, hw, take]

theorem foldl_step_spelling (h : Spelling us cs) (hp : s.phase = .plain) :
    cs.foldl Lexer.step ⟨ts, .string s⟩ = ⟨ts, .string (us.foldl take s)⟩ := by
  induction h generalizing s with
  | nil => rfl
  | cons hu _ ih => rw [List.foldl_append, foldl_step_spelled hu hp, ih (phase_take s _)]; rfl

/-- What has been read of a string, from its quotation mark on. -/
inductive StringState.Covers : StringState → List Char → Prop
  | plain {us : List StringUnit} {cs : List Char} : Spelling us cs →
    Covers (us.foldl take {}) ('"' :: cs)
  | escape {us : List StringUnit} {cs : List Char} : Spelling us cs →
    Covers { us.foldl take {} with phase := .escape } ('"' :: (cs ++ ['\\']))
  | hex {us : List StringUnit} {cs ds : List Char} {value left : Nat} : Spelling us cs →
    ds.length + left = 4 → 0 < left → hexNumber? ds = some value →
    Covers { us.foldl take {} with phase := .hex value left } ('"' :: (cs ++ '\\' :: 'u' :: ds))

/-- Nothing that follows makes a token of what is being read. -/
inductive Reading.Lost : Reading → Prop
  | badHex {due : Nat} {fault : Option Fault} : Lost (.badHex due fault)
  | broken {ending : Ending} : ending ≠ .complete → Lost (.broken ending)

/-- What one more character makes of what has been read. -/
inductive Lexer.Follows (l : Lexer) (part : List Char) : Lexer → Prop
  | emit {t : Token} : t.Spelled part → Follows l part (l.emit t)
  | string {s : StringState} : s.Covers part → Follows l part (l.turn (.string s))
  | lost {r : Reading} : r.Lost → Follows l part (l.turn r)

theorem StringState.Covers.snoc (h : Spelling us cs) (hu : u.Spelled ds) :
    ((us.foldl take {}).take u).Covers ('"' :: (cs ++ ds)) := by
  have hc := Covers.plain (h.snoc hu)
  rwa [List.foldl_append] at hc

theorem follows_plain (l : Lexer) (c : Char) (h : Spelling us cs) :
    l.Follows ('"' :: (cs ++ [c])) (l.stringChar (us.foldl take {}) c) := by
  have hphase : (us.foldl take {}).phase = .plain := phase_foldl rfl us
  simp only [Lexer.stringChar, hphase]
  by_cases hb : c = '\\'
  · subst hb
    exact .string (.escape h)
  rw [if_neg hb]
  by_cases hq : c = '"'
  · subst hq
    rw [if_pos rfl, token_foldl]
    exact .emit h.spelled
  rw [if_neg hq]
  by_cases hc : c.toNat < 0x20
  · rw [if_pos hc]
    exact .lost (.broken (by simp [StringState.ending]))
  · rw [if_neg hc]
    exact .string (.snoc h (.plain hq hb (by omega)))

theorem follows_escape (l : Lexer) (c : Char) (h : Spelling us cs) :
    l.Follows ('"' :: (cs ++ ['\\', c]))
      (l.stringChar { us.foldl take {} with phase := .escape } c) := by
  simp only [Lexer.stringChar]
  by_cases hu : c = 'u'
  · subst hu
    exact .string (.hex h rfl (by omega) rfl)
  rw [if_neg hu]
  cases he : escaped? c with
  | none => exact .lost (.broken (by simp [StringState.ending]))
  | some e =>
    have htake := take_phase (us.foldl take {}) .escape (.char e)
    rw [take] at htake
    simp only [htake]
    exact .string (.snoc h (.escape (escaped?_eq_some_iff.1 he)))

theorem follows_hex (l : Lexer) (c : Char) {left : Nat} (h : Spelling us cs)
    (hlen : ds.length + left = 4) (hleft : 0 < left) (hn : hexNumber? ds = some n) :
    l.Follows ('"' :: (cs ++ '\\' :: 'u' :: (ds ++ [c])))
      (l.stringChar { us.foldl take {} with phase := .hex n left } c) := by
  simp only [Lexer.stringChar]
  cases hd : hexValue? c with
  | none => exact .lost .badHex
  | some d =>
    have hsnoc : hexNumber? (ds ++ [c]) = some (n * 16 + d) := by simp [hexNumber?_snoc, hn, hd]
    by_cases hone : left ≤ 1
    · have htake := take_phase (us.foldl take {}) (.hex n left) (.bits (n * 16 + d))
      rw [take] at htake
      simp only [hone, if_true, htake]
      exact .string (.snoc h (.hex (by simp; omega) hsnoc))
    · simp only [hone, if_false]
      exact .string (.hex h (by simp; omega) (by omega) hsnoc)

/-- One more character of a string. -/
theorem StringState.Covers.follows (h : s.Covers cs) (l : Lexer) (c : Char) :
    l.Follows (cs ++ [c]) (l.stringChar s c) := by
  cases h with
  | plain h => exact follows_plain l c h
  | escape h => simpa using follows_escape l c h
  | hex h hlen hleft hn => simpa using follows_hex l c h hlen hleft hn

end DependencyAudit.Json
