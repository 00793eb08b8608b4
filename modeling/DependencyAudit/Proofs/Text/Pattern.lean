import DependencyAudit.Proofs.Text.Runs
import Mathlib.Data.List.Infix

/-!
Patterns of texts. A pattern can read a text in several ways, which come in an order: the first
alternative before the second, more repetitions before fewer. It matches at the leftmost place where
it can read at all, in the way that comes first.
-/
namespace DependencyAudit.Text

inductive Pattern
  | start
  | text (lead : List Char)
  | one (f : Char → Bool)
  | fail
  | seq (p q : Pattern)
  | alt (p q : Pattern)
  | many (p : Pattern)
  | group (p : Pattern)

/-- What of a text is still to be read, and what the group captured. -/
structure Reading where
  rest : List Char
  captured : Option (List Char) := none

def Reading.at (s : Reading) (rest : List Char) : Reading := { s with rest }

/-- What was read from one reading to a later one. -/
def Reading.upTo (s r : Reading) : List Char := s.rest.take (s.rest.length - r.rest.length)

theorem Reading.upTo_of_append {s r : Reading} {read : List Char} (h : s.rest = read ++ r.rest) :
    s.upTo r = read := by
  simp [upTo, h]

namespace Pattern

/-- Goes on as long as something is read. More repetitions than there are characters there cannot
be. -/
def repeats (step : Reading → List Reading) : Nat → Reading → List Reading
  | 0, s => [s]
  | n + 1, s =>
    ((step s).filter fun r => r.rest.length < s.rest.length).flatMap (repeats step n) ++ [s]

/-- The ways to read on, in the order of preference. -/
def readings (whole : List Char) : Pattern → Reading → List Reading
  | start, s => if s.rest = whole then [s] else []
  | text lead, s => ((afterLead? lead s.rest).map s.at).toList
  | one f, s =>
    match s.rest with
    | [] => []
    | c :: cs => if f c then [s.at cs] else []
  | fail, _ => []
  | seq p q, s => (p.readings whole s).flatMap (q.readings whole)
  | alt p q, s => p.readings whole s ++ q.readings whole s
  | many p, s => repeats (p.readings whole) s.rest.length s
  | group p, s => (p.readings whole s).map fun r => { r with captured := some (s.upTo r) }

/-- The preferred reading at the leftmost place. -/
def match? (p : Pattern) (whole : List Char) : Option Reading :=
  whole.tails.findSome? fun rest => (p.readings whole ⟨rest, none⟩).head?

/-- What the group captures in a match. -/
def capture? (p : Pattern) (whole : List Char) : Option (List Char) :=
  (p.match? whole).bind (·.captured)

/-- As many characters of a class as there are. -/
def run (f : Char → Bool) : Pattern := many (one f)

/-- As many characters of a class as there are, but at least one. -/
def someRun (f : Char → Bool) : Pattern := seq (one f) (run f)

def oneOf (leads : List (List Char)) : Pattern :=
  leads.foldr (fun lead p => alt (text lead) p) fail

/-- Once if possible. -/
def optional (p : Pattern) : Pattern := alt p (text [])

variable {whole cs rest : List Char} {f : Char → Bool}
  {s r : Reading} {p q : Pattern} {step : Reading → List Reading} {n : Nat}
  {follow : Reading → List Reading} {L M : List Char → Prop}

theorem mem_readings_seq : r ∈ (seq p q).readings whole s ↔
    ∃ t ∈ p.readings whole s, r ∈ q.readings whole t := by
  exact List.mem_flatMap

theorem readings_optional (s : Reading) :
    (optional p).readings whole s = p.readings whole s ++ [s] := by
  rfl

theorem mem_repeats_self (step : Reading → List Reading) (n : Nat) (s : Reading) :
    s ∈ repeats step n s := by
  cases n <;> simp [repeats]

theorem mem_repeats_of_mem (h : r ∈ step s) (hlt : r.rest.length < s.rest.length) {t : Reading}
    (ht : t ∈ repeats step n r) : t ∈ repeats step (n + 1) s := by
  have hr : r ∈ (step s).filter fun r => r.rest.length < s.rest.length :=
    List.mem_filter.2 ⟨h, decide_eq_true hlt⟩
  exact List.mem_append_left _ (List.mem_flatMap.2 ⟨r, hr, ht⟩)

/-- What one repetition preserves, all of them do. -/
theorem repeats_induction {I : Reading → Prop} (hstep : ∀ s, I s → ∀ r ∈ step s, I r) (hs : I s)
    (h : r ∈ repeats step n s) : I r := by
  induction n generalizing s with
  | zero =>
    obtain rfl := List.mem_singleton.1 h
    exact hs
  | succ n ih =>
    obtain h | h := List.mem_append.1 h
    · obtain ⟨t, ht, hr⟩ := List.mem_flatMap.1 h
      exact ih (hstep s hs t (List.mem_filter.1 ht).1) hr
    · obtain rfl := List.mem_singleton.1 h
      exact hs

/-- Where a run of a class may end, the longest one first. -/
def runEnds (f : Char → Bool) : List Char → List (List Char)
  | [] => [[]]
  | c :: cs => if f c then runEnds f cs ++ [c :: cs] else [c :: cs]

theorem readings_run (f : Char → Bool) (s : Reading) :
    (run f).readings whole s = (runEnds f s.rest).map s.at := by
  obtain ⟨cs, captured⟩ := s
  change repeats _ cs.length _ = _
  induction cs with
  | nil => rfl
  | cons c cs ih =>
    have hone : (one f).readings whole ⟨c :: cs, captured⟩ =
        if f c then [⟨cs, captured⟩] else [] := rfl
    have hat : Reading.at ⟨c :: cs, captured⟩ = Reading.at ⟨cs, captured⟩ := rfl
    rw [List.length_cons, repeats, hone, hat]
    by_cases hc : f c = true
    · simpa [hc, runEnds, Reading.at] using ih
    · simp [hc, runEnds, Reading.at]

theorem mem_runEnds_iff : rest ∈ runEnds f cs ↔ ∃ read, cs = read ++ rest ∧ Run f read := by
  induction cs with
  | nil =>
    constructor
    · intro h
      exact ⟨[], (List.mem_singleton.1 h).symm, run_nil⟩
    · rintro ⟨read, hread, _⟩
      exact List.mem_singleton.2 (List.append_eq_nil_iff.1 hread.symm).2
  | cons c cs ih =>
    constructor
    · intro h
      by_cases hc : f c = true
      · simp only [runEnds, hc, if_true, List.mem_append, List.mem_singleton, ih] at h
        obtain ⟨read, rfl, hread⟩ | rfl := h
        · exact ⟨c :: read, rfl, run_cons hc hread⟩
        · exact ⟨[], rfl, run_nil⟩
      · simp only [runEnds, hc] at h
        exact ⟨[], (List.mem_singleton.1 h).symm, run_nil⟩
    · rintro ⟨read, hread, hrun⟩
      cases read with
      | nil =>
        obtain rfl : c :: cs = rest := hread
        by_cases hc : f c = true <;> simp [runEnds, hc]
      | cons d read =>
        obtain ⟨rfl, rfl⟩ := List.cons.inj hread
        have hmem := ih.2 ⟨read, rfl, fun e he => hrun e (List.mem_cons_of_mem c he)⟩
        rw [runEnds, if_pos (hrun c List.mem_cons_self)]
        exact List.mem_append_left _ hmem

/-- The first end is the longest one, and before the others there is more of the class. -/
theorem runEnds_eq (f : Char → Bool) (cs : List Char) : ∃ others,
    runEnds f cs = cs.dropWhile f :: others ∧
      ∀ rest ∈ others, ∃ c cs, rest = c :: cs ∧ f c = true := by
  induction cs with
  | nil => exact ⟨[], rfl, fun rest h => (List.not_mem_nil h).elim⟩
  | cons c cs ih =>
    by_cases hc : f c = true
    · obtain ⟨others, heq, hothers⟩ := ih
      refine ⟨others ++ [c :: cs], by simp [runEnds, hc, heq], ?_⟩
      intro rest hrest
      obtain hrest | hrest := List.mem_append.1 hrest
      · exact hothers rest hrest
      · exact ⟨c, cs, List.mem_singleton.1 hrest, hc⟩
    · exact ⟨[], by simp [runEnds, hc], fun rest h => (List.not_mem_nil h).elim⟩

/-- The pattern reads exactly the texts of a language off the start, and captures nothing. -/
def Takes (p : Pattern) (L : List Char → Prop) : Prop :=
  ∀ whole s r, r ∈ p.readings whole s ↔
    ∃ read rest, L read ∧ s.rest = read ++ rest ∧ r = s.at rest

theorem Takes.congr (h : p.Takes L) (hLM : ∀ read, L read ↔ M read) : p.Takes M := by
  obtain rfl : L = M := funext fun read => propext (hLM read)
  exact h

theorem Takes.seq (hp : p.Takes L) (hq : q.Takes M) :
    (seq p q).Takes fun read => ∃ a b, read = a ++ b ∧ L a ∧ M b := by
  intro whole s r
  simp only [mem_readings_seq, hp whole s _, hq whole _ r]
  constructor
  · rintro ⟨_, ⟨a, mid, ha, hs, rfl⟩, b, rest, hb, hmid, rfl⟩
    obtain rfl : mid = b ++ rest := hmid
    exact ⟨a ++ b, rest, ⟨a, b, rfl, ha, hb⟩, by rw [hs, List.append_assoc], rfl⟩
  · rintro ⟨_, rest, ⟨a, b, rfl, ha, hb⟩, hs, rfl⟩
    rw [List.append_assoc] at hs
    exact ⟨_, ⟨a, b ++ rest, ha, hs, rfl⟩, b, rest, hb, rfl, rfl⟩

theorem Takes.alt (hp : p.Takes L) (hq : q.Takes M) :
    (alt p q).Takes fun read => L read ∨ M read := by
  intro whole s r
  rw [readings, List.mem_append, hp whole s r, hq whole s r]
  constructor
  · rintro (⟨read, rest, h, hs, rfl⟩ | ⟨read, rest, h, hs, rfl⟩)
    · exact ⟨read, rest, .inl h, hs, rfl⟩
    · exact ⟨read, rest, .inr h, hs, rfl⟩
  · rintro ⟨read, rest, h | h, hs, rfl⟩
    · exact .inl ⟨read, rest, h, hs, rfl⟩
    · exact .inr ⟨read, rest, h, hs, rfl⟩

theorem takes_text (lead : List Char) : (text lead).Takes (· = lead) := by
  intro whole s r
  rw [readings, Option.mem_toList, Option.map_eq_some_iff]
  simp only [afterLead?_eq_some_iff]
  constructor
  · rintro ⟨rest, hs, rfl⟩
    exact ⟨lead, rest, rfl, hs, rfl⟩
  · rintro ⟨_, rest, rfl, hs, rfl⟩
    exact ⟨rest, hs, rfl⟩

theorem takes_fail : fail.Takes fun _ => False := by
  intro whole s r
  simp [readings]

theorem takes_oneOf (leads : List (List Char)) : (oneOf leads).Takes (· ∈ leads) := by
  induction leads with
  | nil => exact takes_fail.congr fun read => by simp
  | cons lead leads ih => exact ((takes_text lead).alt ih).congr fun read => List.mem_cons.symm

theorem takes_one (f : Char → Bool) : (one f).Takes fun read => ∃ c, read = [c] ∧ f c = true := by
  intro whole s r
  obtain ⟨cs, captured⟩ := s
  cases cs with
  | nil => simp [readings]
  | cons c cs =>
    by_cases hc : f c = true <;> simp [readings, hc]

theorem takes_run (f : Char → Bool) : (run f).Takes (Run f) := by
  intro whole s r
  simp only [readings_run, List.mem_map, mem_runEnds_iff]
  constructor
  · rintro ⟨rest, ⟨read, hs, hrun⟩, rfl⟩
    exact ⟨read, rest, hrun, hs, rfl⟩
  · rintro ⟨read, rest, hrun, hs, rfl⟩
    exact ⟨rest, ⟨read, hs, hrun⟩, rfl⟩

theorem takes_someRun (f : Char → Bool) :
    (someRun f).Takes fun read => read ≠ [] ∧ Run f read := by
  refine ((takes_one f).seq (takes_run f)).congr fun read => ?_
  constructor
  · rintro ⟨_, b, rfl, ⟨c, rfl, hc⟩, hb⟩
    exact ⟨List.cons_ne_nil c b, run_cons hc hb⟩
  · rintro ⟨hne, hrun⟩
    obtain ⟨c, b, rfl⟩ := List.exists_cons_of_ne_nil hne
    exact ⟨[c], b, rfl, ⟨c, rfl, hrun c List.mem_cons_self⟩,
      fun d hd => hrun d (List.mem_cons_of_mem c hd)⟩

/-- A run of at least one character reads one, and a run after it. -/
theorem readings_someRun (f : Char → Bool) (s : Reading) :
    (someRun f).readings whole s =
      match s.rest with
      | [] => []
      | c :: cs => if f c then (run f).readings whole (s.at cs) else [] := by
  obtain ⟨cs, captured⟩ := s
  cases cs with
  | nil => rfl
  | cons c cs =>
    by_cases hc : f c = true <;> simp [someRun, readings, hc]

/-- What follows a run of at least one character. -/
def afterRun? (f : Char → Bool) : List Char → Option (List Char)
  | [] => none
  | c :: cs => if f c then some (cs.dropWhile f) else none

/-- The longest run comes first. -/
theorem head?_readings_someRun (f : Char → Bool) (s : Reading) :
    ((someRun f).readings whole s).head? = (afterRun? f s.rest).map s.at := by
  obtain ⟨cs, captured⟩ := s
  rw [readings_someRun]
  cases cs with
  | nil => rfl
  | cons c cs =>
    by_cases hc : f c = true
    · obtain ⟨others, heq, _⟩ := runEnds_eq f cs
      simp [hc, readings_run, afterRun?, Reading.at, heq]
    · simp [hc, afterRun?]

/-- Nothing follows a text that starts with a character of the class. -/
def Refuses (f : Char → Bool) (follow : Reading → List Reading) : Prop :=
  ∀ s, ∀ r ∈ follow s, Stops f s.rest

/-- A run is read to its end if what follows refuses its characters. -/
theorem flatMap_run (h : Refuses f follow) (s : Reading) :
    ((run f).readings whole s).flatMap follow = follow (s.at (s.rest.dropWhile f)) := by
  obtain ⟨others, heq, hothers⟩ := runEnds_eq f s.rest
  have hnone : (others.map s.at).flatMap follow = [] := by
    rw [List.flatMap_eq_nil_iff]
    intro r hr
    obtain ⟨rest, hrest, rfl⟩ := List.mem_map.1 hr
    obtain ⟨c, cs, rfl, hc⟩ := hothers rest hrest
    refine List.eq_nil_iff_forall_not_mem.2 fun t ht => ?_
    have hstops : f c = false := h _ t ht c rfl
    rw [hc] at hstops
    cases hstops
  rw [readings_run, heq, List.map_cons, List.flatMap_cons, hnone, List.append_nil]

theorem flatMap_someRun (h : Refuses f follow) (s : Reading) :
    ((someRun f).readings whole s).flatMap follow =
      (afterRun? f s.rest).toList.flatMap fun rest => follow (s.at rest) := by
  obtain ⟨cs, captured⟩ := s
  rw [readings_someRun]
  cases cs with
  | nil => rfl
  | cons c cs =>
    by_cases hc : f c = true
    · simp [hc, flatMap_run h, afterRun?, Reading.at]
    · simp [hc, afterRun?]

/-- If only one of several readings can go on, the way it goes on comes first. -/
theorem head?_flatMap_of_unique {α β : Type} {l : List α} {Q : α → List β} {a : α}
    (hmem : a ∈ l) (honly : ∀ b ∈ l, Q b ≠ [] → b = a) : (l.flatMap Q).head? = (Q a).head? := by
  induction l with
  | nil => exact (List.not_mem_nil hmem).elim
  | cons b l ih =>
    rw [List.flatMap_cons, List.head?_append]
    by_cases hb : b = a
    · subst hb
      cases hQ : Q b with
      | cons x xs => rfl
      | nil =>
        have hnone : l.flatMap Q = [] := by
          rw [List.flatMap_eq_nil_iff]
          intro c hc
          by_contra hne
          rw [honly c (List.mem_cons_of_mem b hc) hne] at hne
          exact hne hQ
        rw [hnone]
        rfl
    · have hQ : Q b = [] := by
        by_contra hne
        exact hb (honly b List.mem_cons_self hne)
      have hmem' : a ∈ l := (List.mem_cons.1 hmem).resolve_left (Ne.symm hb)
      rw [hQ, ih hmem' fun c hc => honly c (List.mem_cons_of_mem b hc)]
      rfl

/-- The pattern reads nothing after the start of a text. -/
def Anchored (p : Pattern) : Prop :=
  ∀ whole s, s.rest ≠ whole → p.readings whole s = []

theorem anchored_start : Anchored start := by
  intro whole s hne
  exact if_neg hne

theorem Anchored.seq (h : p.Anchored) (q : Pattern) : (seq p q).Anchored := by
  intro whole s hne
  change (p.readings whole s).flatMap _ = []
  rw [h whole s hne, List.flatMap_nil]

theorem match?_of_anchored (h : p.Anchored) (whole : List Char) :
    p.match? whole = (p.readings whole ⟨whole, none⟩).head? := by
  cases whole with
  | nil => simp [match?]
  | cons c cs =>
    have hlater : cs.tails.findSome?
        (fun rest => (p.readings (c :: cs) ⟨rest, none⟩).head?) = none := by
      rw [List.findSome?_eq_none_iff]
      intro rest hrest
      have hle := ((List.mem_tails rest cs).1 hrest).length_le
      have hne : rest ≠ c :: cs := by
        rintro rfl
        simp only [List.length_cons] at hle
        omega
      rw [h (c :: cs) ⟨rest, none⟩ hne]
      rfl
    rw [match?, List.tails_cons, List.findSome?_cons, hlater]
    cases (p.readings (c :: cs) ⟨c :: cs, none⟩).head? <;> rfl

end Pattern

end DependencyAudit.Text
