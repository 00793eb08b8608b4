import DependencyAudit.Proofs.Json.Strings
import DependencyAudit.Proofs.Json.Numbers
import Mathlib.Data.List.Chain

/-!
Reading tokens. What the lexer has taken in is always the text of the tokens it holds and of a part
of the next one; and it finds the tokens of every text in which no two of them need a blank that is
not there.
-/
namespace DependencyAudit.Json

open Text

variable {l : Lexer} {r : Reading} {t m : Token} {ts us tail : List Token}
  {p : NumberPhase} {cs text done part read : List Char} {c : Char}

/-- What of the text belongs to what is being read. -/
inductive Reading.Covers : Reading → List Char → Prop
  | between : Covers .between []
  | word {rest part : List Char} {t : Token} : t.Spelled (part ++ rest) → Covers (.word rest t) part
  | number {p : NumberPhase} {read : List Char} : p.Shape read.reverse →
    Covers (.number p read) read.reverse
  | string {s : StringState} {part : List Char} : s.Covers part → Covers (.string s) part
  | lost {r : Reading} {part : List Char} : r.Lost → Covers r part

theorem covers_single (h : p.Shape [c]) : (Reading.number p [c]).Covers [c] := by
  have hn : (Reading.number p [c]).Covers [c].reverse := .number h
  exact hn

namespace Lexer

/-- The lexer has taken in the text. -/
def Tells (l : Lexer) (text : List Char) : Prop :=
  ∃ done part, text = done ++ part ∧ Laid l.tokens.reverse done ∧ l.reading.Covers part

theorem tells_turn (hl : Laid l.tokens.reverse done) (hr : r.Covers part) :
    (l.turn r).Tells (done ++ part) :=
  ⟨done, part, rfl, hl, hr⟩

theorem laid_emit (hl : Laid l.tokens.reverse done) (ht : t.Spelled part) :
    Laid (l.emit t).tokens.reverse (done ++ part) := by
  simpa [emit] using hl.snoc ht

theorem tells_emit (hl : Laid l.tokens.reverse done) (ht : t.Spelled part) :
    (l.emit t).Tells (done ++ part) :=
  ⟨done ++ part, [], (List.append_nil _).symm, laid_emit hl ht, .between⟩

theorem tells_lost (hl : Laid l.tokens.reverse done) (hr : r.Lost) (part : List Char) :
    (l.turn r).Tells (done ++ part) :=
  tells_turn hl (.lost hr)

theorem lost_malformedScalar : (Reading.broken malformedScalar).Lost :=
  .broken (by simp [malformedScalar])

theorem Follows.tells {l' : Lexer} (h : l.Follows part l') (hl : Laid l.tokens.reverse done) :
    l'.Tells (done ++ part) := by
  cases h with
  | emit ht => exact tells_emit hl ht
  | string hs => exact tells_turn hl (.string hs)
  | lost hr => exact tells_lost hl hr part

theorem blanks_singleton (h : isSpace c = true) : Blanks [c] := by
  intro d hd
  obtain rfl := List.mem_singleton.1 hd
  simpa [isSpace, or_assoc] using h

theorem tells_start (hl : Laid l.tokens.reverse done) (c : Char) :
    (l.start c).Tells (done ++ [c]) := by
  unfold start
  cases hs : isSpace c with
  | true => exact ⟨done ++ [c], [], by simp, hl.append_blanks (blanks_singleton hs), .between⟩
  | false =>
    simp only [Bool.false_eq_true, if_false]
    split
    · exact tells_emit hl .openBracket
    · exact tells_emit hl .closeBracket
    · exact tells_emit hl .openBrace
    · exact tells_emit hl .closeBrace
    · exact tells_emit hl .comma
    · exact tells_emit hl .colon
    · exact tells_turn hl (.string (.plain .nil))
    · exact tells_turn hl (.word .null)
    · exact tells_turn hl (.word .isTrue)
    · exact tells_turn hl (.word .isFalse)
    · exact tells_turn hl (covers_single .minus)
    · exact tells_turn hl (covers_single NumberPhase.shape_zero)
    · rename_i h0
      split
      · rename_i hd
        have h0' : c ≠ '0' := fun hc => h0 hc
        rw [isDigit_eq] at hd
        exact tells_turn hl (covers_single (NumberPhase.shape_digit hd h0'))
      · exact tells_lost hl lost_malformedScalar _

theorem tells_word {rest : List Char} (hl : Laid l.tokens.reverse done)
    (ht : t.Spelled (part ++ rest)) (hr : l.reading = .word rest t) (c : Char) :
    (l.step c).Tells (done ++ (part ++ [c])) := by
  unfold step
  rw [hr]
  cases rest with
  | nil => exact tells_lost hl lost_malformedScalar _
  | cons d rest =>
    simp only
    by_cases hc : c = d
    · subst hc
      simp only [ne_eq, not_true_eq_false, if_false]
      by_cases hrest : rest = []
      · subst hrest
        exact tells_emit hl ht
      · rw [if_neg hrest]
        refine tells_turn hl (.word ?_)
        rwa [List.append_assoc, List.singleton_append]
    · rw [if_pos hc]
      exact tells_lost hl lost_malformedScalar _

theorem tells_number (hl : Laid l.tokens.reverse done) (hs : p.Shape read.reverse)
    (hr : l.reading = .number p read) (c : Char) :
    (l.step c).Tells (done ++ (read.reverse ++ [c])) := by
  unfold step
  rw [hr]
  simp only
  cases hn : p.next? c with
  | some q =>
    have hshape : q.Shape (c :: read).reverse := by
      rw [List.reverse_cons]
      exact hs.next hn
    have htells := tells_turn hl (.number hshape)
    rwa [List.reverse_cons] at htells
  | none =>
    simp only
    split
    · exact tells_lost hl lost_malformedScalar _
    · rename_i hend
      have hp : p.mayEnd = true := by
        cases hp : p.mayEnd <;> simp_all
      rw [← List.append_assoc]
      exact tells_start (laid_emit hl (.number (hs.isNumber hp))) c

theorem tells_step (h : l.Tells text) (c : Char) : (l.step c).Tells (text ++ [c]) := by
  obtain ⟨done, part, rfl, hl, hcovers⟩ := h
  rw [List.append_assoc]
  generalize hr : l.reading = r at hcovers
  cases hcovers with
  | between =>
    unfold step
    rw [hr]
    exact tells_start hl c
  | word ht => exact tells_word hl ht hr c
  | number hs => exact tells_number hl hs hr c
  | string hs =>
    unfold step
    rw [hr]
    exact (hs.follows l c).tells hl
  | lost hlost =>
    unfold step
    rw [hr]
    cases hlost with
    | badHex => exact tells_lost hl .badHex _
    | broken he =>
      refine ⟨done, part ++ [c], rfl, hl, ?_⟩
      rw [hr]
      exact .lost (.broken he)

theorem tells_foldl (h : l.Tells text) (cs : List Char) : (cs.foldl step l).Tells (text ++ cs) := by
  induction cs generalizing l text with
  | nil => simpa using h
  | cons c cs ih => simpa using ih (tells_step h c)

theorem laid_of_finish (h : l.Tells text) (hf : l.finish = (ts, .complete)) : Laid ts text := by
  obtain ⟨done, part, rfl, hl, hcovers⟩ := h
  unfold finish at hf
  generalize hr : l.reading = r at hcovers hf
  cases hcovers with
  | between =>
    cases hf
    simpa using hl
  | word _ => cases hf
  | @number p read hs =>
    simp only at hf
    split at hf
    · rename_i hp
      cases hf
      rw [List.reverse_cons]
      exact hl.snoc (.number (hs.isNumber hp))
    · cases hf
  | string _ => cases hf
  | lost hlost =>
    cases hlost with
    | badHex => cases hf
    | broken he => exact absurd (congrArg Prod.snd hf) he

end Lexer

/-- The tokens that are found in a text are those of the text. -/
theorem laid_of_tokens (h : tokens text = (ts, .complete)) : Laid ts text := by
  have hstart : Lexer.Tells {} [] := ⟨[], [], rfl, .nil blanks_nil, .between⟩
  have htells := Lexer.tells_foldl hstart text
  exact Lexer.laid_of_finish htells h

/-- A token that can stand next to any other without a blank. -/
def Token.isMark : Token → Bool
  | .openBracket | .closeBracket | .openBrace | .closeBrace | .comma | .colon => true
  | .null | .bool _ | .number _ | .string _ => false

def Separate (a b : Token) : Prop := a.isMark = true ∨ b.isMark = true

namespace Lexer

/-- The lexer holds the tokens; of the last one, if it is a number, it does not know yet whether it
ends. -/
inductive Holds : Lexer → List Token → Prop
  | between {ts : List Token} : Holds ⟨ts.reverse, .between⟩ ts
  | number {ts : List Token} {p : NumberPhase} {read : List Char} : p.mayEnd = true →
    Holds ⟨ts.reverse, .number p read⟩ (ts ++ [.number (String.ofList read.reverse)])

theorem Holds.finish (h : l.Holds ts) : l.finish = (ts, .complete) := by
  cases h with
  | between => simp [Lexer.finish]
  | number hp => simp [Lexer.finish, hp]

theorem next?_eq_none (hp : p.mayEnd = true) (hd : isDigit c = false) (hdot : c ≠ '.')
    (he : c ≠ 'e') (hE : c ≠ 'E') : p.next? c = none := by
  cases p <;> simp_all [NumberPhase.mayEnd, NumberPhase.next?]

/-- A character that no number goes on with starts something new. -/
theorem Holds.step (h : l.Holds ts) (hd : isDigit c = false) (hdot : c ≠ '.') (he : c ≠ 'e')
    (hE : c ≠ 'E') : l.step c = start ⟨ts.reverse, .between⟩ c := by
  cases h with
  | between => rfl
  | number hp => simp [Lexer.step, next?_eq_none hp hd hdot he hE, hp, hd, emit]

theorem Holds.step_space (h : l.Holds ts) (hc : isSpace c = true) : (l.step c).Holds ts := by
  have hstart : start ⟨ts.reverse, .between⟩ c = ⟨ts.reverse, .between⟩ := by
    simp [start, hc, turn]
  have hcases : c = ' ' ∨ c = '\t' ∨ c = '\n' ∨ c = '\r' := by simpa [isSpace, or_assoc] using hc
  have hstep : l.step c = start ⟨ts.reverse, .between⟩ c := by
    obtain rfl | rfl | rfl | rfl := hcases <;>
      exact h.step (by decide) (by decide) (by decide) (by decide)
  rw [hstep, hstart]
  exact .between

theorem Holds.blanks (h : l.Holds ts) (hb : Blanks cs) : (cs.foldl Lexer.step l).Holds ts := by
  induction cs generalizing l with
  | nil => exact h
  | cons c cs ih =>
    have hc : isSpace c = true := by
      simpa [isSpace, or_assoc] using hb c List.mem_cons_self
    exact ih (h.step_space hc) fun d hd => hb d (List.mem_cons_of_mem c hd)

theorem holds_emit (ts : List Token) (t : Token) :
    (emit ⟨ts.reverse, .between⟩ t).Holds (ts ++ [t]) := by
  have hb : Holds ⟨(ts ++ [t]).reverse, .between⟩ (ts ++ [t]) := .between
  rwa [List.reverse_append] at hb

theorem Holds.mark (h : l.Holds ts) (ht : t.Spelled cs) (hm : t.isMark = true) :
    (cs.foldl Lexer.step l).Holds (ts ++ [t]) := by
  cases ht with
  | null | isTrue | isFalse | number _ | string _ _ | torn _ _ => cases hm
  | openBracket | closeBracket | openBrace | closeBrace | comma | colon =>
    rw [List.foldl_cons, h.step (by decide) (by decide) (by decide) (by decide)]
    exact holds_emit ts _

theorem start_digit (ts : List Token) (hd : digit c = true) :
    ∃ q, NumberPhase.minus.next? c = some q ∧
      start ⟨ts, .between⟩ c = ⟨ts, .number q [c]⟩ := by
  rw [← isDigit_eq] at hd
  have hspace : isSpace c = false := by
    rw [Bool.eq_false_iff]
    intro hs
    have hcases : c = ' ' ∨ c = '\t' ∨ c = '\n' ∨ c = '\r' := by simpa [isSpace, or_assoc] using hs
    obtain rfl | rfl | rfl | rfl := hcases <;> cases hd
  simp only [start, hspace, Bool.false_eq_true, if_false]
  split
  case h_12 => exact ⟨.zero, rfl, rfl⟩
  case h_13 h0 =>
    have h0' : c ≠ '0' := fun hc => h0 hc
    exact ⟨.whole, by simp [NumberPhase.next?, h0', hd], by simp [hd, turn]⟩
  all_goals cases hd

theorem holds_reverse (hp : p.mayEnd = true) (h : read.reverse = cs) :
    Holds ⟨ts.reverse, .number p read⟩ (ts ++ [.number (String.ofList cs)]) := by
  subst h
  exact .number hp

theorem holds_number (h : IsNumber cs) :
    (cs.foldl Lexer.step ⟨ts.reverse, .between⟩).Holds
      (ts ++ [.number (String.ofList cs)]) := by
  obtain ⟨sign, whole, fraction, exponent, rfl, hs, hw, hf, he⟩ := h
  obtain ⟨q, hq, hqw⟩ := NumberPhase.reach?_whole hw
  obtain ⟨q', hq', hqf⟩ := NumberPhase.reach?_fraction hf hqw
  obtain ⟨q'', hq'', hend⟩ := NumberPhase.reach?_exponent he hqf
  have hreach : NumberPhase.minus.reach? (whole ++ fraction ++ exponent) = some q'' := by
    rw [NumberPhase.reach?_append, NumberPhase.reach?_append, hq, Option.bind_some, hq',
      Option.bind_some, hq'']
  rw [List.append_assoc, List.append_assoc]
  rw [List.append_assoc] at hreach
  obtain ⟨d, ds, hds, hd⟩ :
      ∃ d ds, whole ++ (fraction ++ exponent) = d :: ds ∧ digit d = true := by
    cases hw with
    | zero => exact ⟨_, _, rfl, rfl⟩
    | digits hd _ _ => exact ⟨_, _, rfl, hd⟩
  generalize whole ++ (fraction ++ exponent) = unsigned at hreach hds ⊢
  obtain rfl | rfl := hs
  · subst hds
    obtain ⟨r, hr, hstart⟩ := start_digit ts.reverse hd
    have hrest : r.reach? ds = some q'' := by rwa [← NumberPhase.reach?_cons hr]
    have hstep : step ⟨ts.reverse, .between⟩ d = ⟨ts.reverse, .number r [d]⟩ := hstart
    rw [List.nil_append, List.foldl_cons, hstep, NumberPhase.foldl_step_of_reach hrest]
    exact holds_reverse hend (by simp)
  · have hstep : step ⟨ts.reverse, .between⟩ '-' = ⟨ts.reverse, .number .minus ['-']⟩ := rfl
    rw [List.singleton_append, List.foldl_cons, hstep, NumberPhase.foldl_step_of_reach hreach]
    exact holds_reverse hend (by simp)

theorem holds_string {vs : List StringUnit} (h : Spelling vs cs) :
    (('"' :: (cs ++ ['"'])).foldl Lexer.step ⟨ts.reverse, .between⟩).Holds
      (ts ++ [.string ((characters? vs).map String.ofList)]) := by
  have hopen : step ⟨ts.reverse, .between⟩ '"' = ⟨ts.reverse, .string {}⟩ := rfl
  have hphase : (vs.foldl StringState.take {}).phase = .plain := StringState.phase_foldl rfl vs
  rw [List.foldl_cons, hopen, List.foldl_append, foldl_step_spelling h rfl, List.foldl_cons,
    List.foldl_nil]
  have hclose : step ⟨ts.reverse, .string (vs.foldl StringState.take {})⟩ '"' =
      emit ⟨ts.reverse, .between⟩ (vs.foldl StringState.take {}).settle.token := by
    simp [step, stringChar, hphase, emit]
  rw [hclose, StringState.token_foldl]
  exact holds_emit ts _

theorem holds_spelled (h : t.Spelled cs) :
    (cs.foldl Lexer.step ⟨ts.reverse, .between⟩).Holds (ts ++ [t]) := by
  cases h with
  | number hn => exact holds_number hn
  | string hs hcontent =>
    have hread := @holds_string ts _ _ hs
    rwa [hcontent.characters?_eq] at hread
  | torn hs hnone =>
    have hread := @holds_string ts _ _ hs
    rwa [hs.characters?_eq_none hnone] at hread
  | _ => exact holds_emit ts _

/-- One more token, after which blanks may follow. -/
theorem Holds.token (h : l.Holds ts) (ht : t.Spelled cs) (hs : ∀ a ∈ ts.getLast?, Separate a t) :
    (cs.foldl Lexer.step l).Holds (ts ++ [t]) := by
  cases h with
  | between => exact holds_spelled ht
  | @number ts p read hp =>
    have hmark : t.isMark = true := by
      have hlast := hs (.number (String.ofList read.reverse)) (by simp)
      exact hlast.resolve_left (by simp [Token.isMark])
    exact (Holds.number hp).mark ht hmark

end Lexer

theorem Laid.holds (h : Laid us text) (hl : l.Holds ts) (hs : (ts ++ us).IsChain Separate) :
    (text.foldl Lexer.step l).Holds (ts ++ us) := by
  induction h generalizing l ts with
  | nil hb => simpa using hl.blanks hb
  | @cons t us blanks cs rest hb ht _ ih =>
    have hlast : ∀ a ∈ ts.getLast?, Separate a t := by
      intro a ha
      exact (List.isChain_append.1 hs).2.2 a ha t rfl
    rw [List.foldl_append, List.foldl_append]
    have htoken := (hl.blanks hb).token ht hlast
    rw [List.append_cons] at hs ⊢
    exact ih htoken hs

theorem holds_start : Lexer.Holds {} [] := by
  have h : Lexer.Holds ⟨[].reverse, .between⟩ [] := .between
  exact h

/-- The tokens of a text are found in it. -/
theorem tokens_of_laid (h : Laid ts text) (hs : ts.IsChain Separate) :
    tokens text = (ts, .complete) :=
  (h.holds holds_start hs).finish

end DependencyAudit.Json
