import DependencyAudit.Proofs.Json.Tables

/-!
Reading numbers. Each phase tells the shape of what has been read, and the phases in which a number
may end are those of the numbers of the grammar.
-/
namespace DependencyAudit.Json.NumberPhase

open Text

variable {p q : NumberPhase} {ts : List Token} {cs ds read : List Char} {c d m : Char}

/-- A sign and the digits before the point. -/
def Leads (cs : List Char) : Prop :=
  ∃ sign whole, cs = sign ++ whole ∧ (sign = [] ∨ sign = ['-']) ∧ Whole whole

/-- What has been read when a phase is reached. -/
inductive Shape : NumberPhase → List Char → Prop
  | minus : Shape .minus ['-']
  | zero {sign : List Char} : sign = [] ∨ sign = ['-'] → Shape .zero (sign ++ ['0'])
  | whole {sign ds : List Char} {d : Char} : sign = [] ∨ sign = ['-'] → digit d = true →
    d ≠ '0' → Run digit ds → Shape .whole (sign ++ d :: ds)
  | point {cs : List Char} : Leads cs → Shape .point (cs ++ ['.'])
  | fraction {cs ds : List Char} : Leads cs → ds ≠ [] → Run digit ds →
    Shape .fraction (cs ++ '.' :: ds)
  | mark {cs fraction : List Char} {m : Char} : Leads cs → Fraction fraction → m = 'e' ∨ m = 'E' →
    Shape .mark (cs ++ fraction ++ [m])
  | sign {cs fraction : List Char} {m s : Char} : Leads cs → Fraction fraction →
    m = 'e' ∨ m = 'E' → s = '+' ∨ s = '-' → Shape .sign (cs ++ fraction ++ [m, s])
  | exponent {cs fraction sign ds : List Char} {m : Char} : Leads cs → Fraction fraction →
    m = 'e' ∨ m = 'E' → sign = [] ∨ sign = ['+'] ∨ sign = ['-'] → ds ≠ [] → Run digit ds →
    Shape .exponent (cs ++ fraction ++ m :: (sign ++ ds))

theorem run_single (h : digit c = true) : Run digit [c] := run_cons h run_nil

theorem run_snoc (h : Run digit ds) (hc : digit c = true) : Run digit (ds ++ [c]) :=
  run_append h (run_single hc)

theorem shape_zero : Shape .zero ['0'] := by
  have h : Shape .zero ([] ++ ['0']) := .zero (Or.inl rfl)
  exact h

theorem shape_digit (hd : digit d = true) (h0 : d ≠ '0') : Shape .whole [d] := by
  have h : Shape .whole ([] ++ [d]) := .whole (Or.inl rfl) hd h0 run_nil
  exact h

/-- The digits before the point may be all of the number, or an exponent or a point follow. -/
theorem shape_after_leads (h : Leads cs)
    (hn : (if c = '.' then some point
      else if c = 'e' || c = 'E' then some mark else none) = some q) :
    Shape q (cs ++ [c]) := by
  split at hn
  · rename_i hc
    subst hc
    cases hn
    exact .point h
  · split at hn
    · rename_i hc
      cases hn
      have hs := Shape.mark h .absent (by simpa using hc : c = 'e' ∨ c = 'E')
      rwa [List.append_nil] at hs
    · cases hn

theorem Shape.next (h : Shape p cs) (hn : p.next? c = some q) : Shape q (cs ++ [c]) := by
  cases h with
  | minus =>
    simp only [next?, isDigit_eq] at hn
    split at hn
    · rename_i hc
      subst hc
      cases hn
      exact .zero (Or.inr rfl)
    · rename_i hc
      split at hn
      · rename_i hd
        cases hn
        have hs : Shape .whole (['-'] ++ [c]) := .whole (Or.inr rfl) hd hc run_nil
        exact hs
      · cases hn
  | zero hs => exact shape_after_leads ⟨_, _, rfl, hs, .zero⟩ hn
  | @whole sign ds d hs hd h0 hr =>
    simp only [next?, isDigit_eq] at hn
    split at hn
    · rename_i hc
      cases hn
      rw [List.append_assoc, List.cons_append]
      exact .whole hs hd h0 (run_snoc hr hc)
    · exact shape_after_leads ⟨_, _, rfl, hs, .digits hd h0 hr⟩ hn
  | point hl =>
    simp only [next?, isDigit_eq] at hn
    split at hn
    · rename_i hc
      cases hn
      rw [List.append_assoc]
      exact .fraction hl (List.cons_ne_nil c []) (run_single hc)
    · cases hn
  | @fraction cs ds hl hne hr =>
    simp only [next?, isDigit_eq] at hn
    split at hn
    · rename_i hc
      cases hn
      rw [List.append_assoc, List.cons_append]
      exact .fraction hl (by simp) (run_snoc hr hc)
    · split at hn
      · rename_i hc
        cases hn
        exact .mark hl (.digits hne hr) (by simpa using hc)
      · cases hn
  | @mark cs fraction m hl hf hm =>
    simp only [next?, isDigit_eq] at hn
    split at hn
    · rename_i hc
      cases hn
      rw [List.append_assoc]
      exact .sign hl hf hm (by simpa using hc)
    · split at hn
      · rename_i hc
        cases hn
        rw [List.append_assoc]
        exact @Shape.exponent cs fraction [] [c] m hl hf hm (Or.inl rfl) (List.cons_ne_nil c [])
          (run_single hc)
      · cases hn
  | @sign cs fraction m s hl hf hm hs =>
    simp only [next?, isDigit_eq] at hn
    split at hn
    · rename_i hc
      cases hn
      rw [List.append_assoc]
      have hsign : [s] = [] ∨ [s] = ['+'] ∨ [s] = ['-'] := by simpa using hs
      exact .exponent hl hf hm hsign (List.cons_ne_nil c []) (run_single hc)
    · cases hn
  | @exponent cs fraction sign ds m hl hf hm hs hne hr =>
    simp only [next?, isDigit_eq] at hn
    split at hn
    · rename_i hc
      cases hn
      rw [List.append_assoc, List.cons_append, List.append_assoc sign]
      exact .exponent hl hf hm hs (by simp) (run_snoc hr hc)
    · cases hn

/-- A number may end in a phase only if it is complete. -/
theorem Shape.isNumber (h : Shape p cs) (hp : p.mayEnd = true) : IsNumber cs := by
  cases h with
  | minus | point _ | mark _ _ _ | sign _ _ _ _ => cases hp
  | @zero sign hs => exact ⟨sign, ['0'], [], [], by simp, hs, .zero, .absent, .absent⟩
  | @whole sign ds d hs hd h0 hr =>
    exact ⟨sign, d :: ds, [], [], by simp, hs, .digits hd h0 hr, .absent, .absent⟩
  | fraction hl hne hr =>
    obtain ⟨sign, whole, rfl, hs, hw⟩ := hl
    exact ⟨sign, whole, _, [], by simp, hs, hw, .digits hne hr, .absent⟩
  | exponent hl hf hm hs hne hr =>
    obtain ⟨sign, whole, rfl, hsign, hw⟩ := hl
    exact ⟨sign, whole, _, _, rfl, hsign, hw, hf, .digits hm hs hne hr⟩

/-- The phase that characters lead to. -/
def reach? (p : NumberPhase) (cs : List Char) : Option NumberPhase := cs.foldlM next? p

theorem reach?_append (p : NumberPhase) (cs ds : List Char) :
    p.reach? (cs ++ ds) = (p.reach? cs).bind (·.reach? ds) := by
  rw [reach?, List.foldlM_append]
  rfl

theorem reach?_cons (h : p.next? c = some q) : p.reach? (c :: cs) = q.reach? cs := by
  rw [reach?, List.foldlM_cons, h]
  rfl

theorem foldl_step_of_reach (h : p.reach? cs = some q) :
    cs.foldl Lexer.step ⟨ts, .number p read⟩ = ⟨ts, .number q (cs.reverse ++ read)⟩ := by
  induction cs generalizing p read with
  | nil =>
    cases h
    rfl
  | cons c cs ih =>
    obtain ⟨r, hr, hrest⟩ := Option.bind_eq_some_iff.1 h
    have hstep : Lexer.step ⟨ts, .number p read⟩ c = ⟨ts, .number r (c :: read)⟩ := by
      simp [Lexer.step, hr, Lexer.turn]
    rw [List.foldl_cons, hstep, ih hrest, List.reverse_cons, List.append_assoc]
    rfl

theorem reach?_run (hloop : ∀ d, digit d = true → p.next? d = some p) (hr : Run digit ds) :
    p.reach? ds = some p := by
  induction ds with
  | nil => rfl
  | cons d ds ih =>
    have hd := hloop d (hr d List.mem_cons_self)
    exact (reach?_cons hd).trans (ih fun c hc => hr c (List.mem_cons_of_mem d hc))

/-- The first digit leads to a phase that takes all further ones. -/
theorem reach?_digits (hfirst : ∀ d, digit d = true → p.next? d = some q)
    (hloop : ∀ d, digit d = true → q.next? d = some q) (hne : ds ≠ []) (hr : Run digit ds) :
    p.reach? ds = some q := by
  cases ds with
  | nil => exact absurd rfl hne
  | cons d ds =>
    have hd := hfirst d (hr d List.mem_cons_self)
    have hrest := reach?_run hloop fun c hc => hr c (List.mem_cons_of_mem d hc)
    exact (reach?_cons hd).trans hrest

theorem next?_whole (d : Char) (h : digit d = true) : whole.next? d = some whole := by
  simp [next?, isDigit_eq, h]

theorem next?_fraction (d : Char) (h : digit d = true) : fraction.next? d = some fraction := by
  simp [next?, isDigit_eq, h]

theorem next?_exponent (d : Char) (h : digit d = true) : exponent.next? d = some exponent := by
  simp [next?, isDigit_eq, h]

theorem reach?_whole (h : Whole cs) :
    ∃ q, minus.reach? cs = some q ∧ (q = .zero ∨ q = .whole) := by
  cases h with
  | zero => exact ⟨.zero, rfl, Or.inl rfl⟩
  | @digits d ds hd h0 hr =>
    have hfirst : minus.next? d = some whole := by simp [next?, isDigit_eq, h0, hd]
    exact ⟨.whole, (reach?_cons hfirst).trans (reach?_run next?_whole hr), Or.inr rfl⟩

theorem reach?_fraction (h : Fraction cs) (hp : p = .zero ∨ p = .whole) :
    ∃ q, p.reach? cs = some q ∧ (q = .zero ∨ q = .whole ∨ q = .fraction) := by
  cases h with
  | absent => exact ⟨p, rfl, hp.elim Or.inl fun h => Or.inr (Or.inl h)⟩
  | digits hne hr =>
    have hpoint : p.next? '.' = some point := by
      obtain rfl | rfl := hp <;> rfl
    have hdigits : point.reach? _ = some fraction :=
      reach?_digits (fun d hd => by simp [next?, isDigit_eq, hd]) next?_fraction hne hr
    exact ⟨.fraction, (reach?_cons hpoint).trans hdigits, Or.inr (Or.inr rfl)⟩

theorem next?_mark (hp : p = .zero ∨ p = .whole ∨ p = .fraction) (hm : m = 'e' ∨ m = 'E') :
    p.next? m = some mark := by
  obtain rfl | rfl := hm <;> obtain rfl | rfl | rfl := hp <;> rfl

theorem reach?_exponent (h : Exponent cs) (hp : p = .zero ∨ p = .whole ∨ p = .fraction) :
    ∃ q, p.reach? cs = some q ∧ q.mayEnd = true := by
  cases h with
  | absent =>
    refine ⟨p, rfl, ?_⟩
    obtain rfl | rfl | rfl := hp <;> rfl
  | @digits m sign ds hm hs hne hr =>
    refine ⟨.exponent, (reach?_cons (next?_mark hp hm)).trans ?_, rfl⟩
    have hsigned : NumberPhase.sign.reach? ds = some exponent :=
      reach?_digits (fun d hd => by simp [next?, isDigit_eq, hd]) next?_exponent hne hr
    obtain rfl | rfl | rfl := hs
    · refine reach?_digits (fun d hd => ?_) next?_exponent hne hr
      have hsign : ¬ (d = '+' ∨ d = '-') := by
        rintro (rfl | rfl) <;> cases hd
      simp [next?, isDigit_eq, hd, hsign]
    · exact (reach?_cons rfl).trans hsigned
    · exact (reach?_cons rfl).trans hsigned

end DependencyAudit.Json.NumberPhase
