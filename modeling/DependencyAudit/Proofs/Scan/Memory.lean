import DependencyAudit.Proofs.PathOrder
import DependencyAudit.Scan.Session

/-!
What a session remembers. Every step either answers from the memory, reads a file, or fails to read
it, and whatever is remembered was found in a file that was read under some spelling.
-/
namespace DependencyAudit.Session

variable {fs : FileSystem} {dir : Path} {s : Session} {p q : Path} {P : Session → Prop}

/-- The session after a reading that gave the lines of a file. -/
def remember (s : Session) (p : Path) (lines : List String) : Session :=
  { s with
    clock := s.clock + 1
    cache := s.cache ++ [(p.components, SourceImport.ofLines p lines)]
    readings := s.readings ++ [⟨s.clock, p, .ok lines⟩] }

/-- The session after a reading that failed. -/
def fail (s : Session) (p : Path) (error : ReadError) : Session :=
  { s with
    clock := s.clock + 1
    readings := s.readings ++ [⟨s.clock, p, .error error⟩]
    warnings := s.warnings ++ [.unreadable p error] }

/-- The session after a listing. -/
def list (s : Session) (warnings : List Warning) : Session :=
  { s with clock := s.clock + 1, warnings := s.warnings ++ warnings }

@[simp] theorem cached?_fail (error : ReadError) : (s.fail p error).cached? q = s.cached? q := rfl

@[simp] theorem cached?_list (warnings : List Warning) :
    (s.list warnings).cached? q = s.cached? q := rfl

theorem cached?_remember (s : Session) (p q : Path) (lines : List String) :
    (s.remember p lines).cached? q =
      (s.cached? q).or (if p.same q then some (SourceImport.ofLines p lines) else none) := by
  by_cases h : q.components = p.components
  · have hs : p.same q := Path.same_iff.2 h.symm
    simp [cached?, remember, List.lookup_append, h, hs]
  · have hs : ¬ p.same q := fun hs => h (Path.same_iff.1 hs).symm
    have hb : (q.components == p.components) = false := by simpa using h
    simp [cached?, remember, List.lookup_append, List.lookup_cons, hb, hs]

/-- A file is known, or it is read, or it cannot be read. -/
theorem file_cases (fs : FileSystem) (s : Session) (p : Path) :
    (∃ found, s.cached? p = some found ∧ s.file fs p = (s, found)) ∨
    (∃ lines, s.cached? p = none ∧ fs.read s.clock p = .ok lines ∧
      s.file fs p = (s.remember p lines, SourceImport.ofLines p lines)) ∨
    (∃ error, s.cached? p = none ∧ fs.read s.clock p = .error error ∧
      s.file fs p = (s.fail p error, [])) := by
  cases hc : s.cached? p with
  | some found => exact Or.inl ⟨found, rfl, by simp [file, hc]⟩
  | none =>
    right
    cases hr : fs.read s.clock p with
    | ok lines => exact Or.inl ⟨lines, rfl, rfl, by simp [file, hc, hr, remember]⟩
    | error error => exact Or.inr ⟨error, rfl, rfl, by simp [file, hc, hr, fail]⟩

theorem files_cons (ps : List Path) :
    s.files fs (p :: ps) =
      (((s.file fs p).1.files fs ps).1, (s.file fs p).2 ++ ((s.file fs p).1.files fs ps).2) := rfl

/-- The files that a target is given when its turn comes. -/
def listing (fs : FileSystem) (dir : Path) (s : Session) (t : Target) : List Path :=
  fs.list s.clock (t.sourceDirectory dir)

theorem target_eq (t : Target) :
    s.target fs dir t =
      let listed := s.listing fs dir t
      let found := (s.list (t.objections listed)).files fs (t.sources listed)
      (found.1, { target := t.name, kind := t.kind, imports := found.2 }) := rfl

theorem targets_cons (t : Target) (ts : List Target) :
    s.targets fs dir (t :: ts) =
      (((s.target fs dir t).1.targets fs dir ts).1,
        (s.target fs dir t).2 :: ((s.target fs dir t).1.targets fs dir ts).2) := rfl

theorem targets_append (s : Session) (ts us : List Target) :
    s.targets fs dir (ts ++ us) =
      (((s.targets fs dir ts).1.targets fs dir us).1,
        (s.targets fs dir ts).2 ++ ((s.targets fs dir ts).1.targets fs dir us).2) := by
  induction ts generalizing s with
  | nil => rfl
  | cons t ts ih => simp [targets_cons, ih]

theorem length_targets (s : Session) (ts : List Target) :
    (s.targets fs dir ts).2.length = ts.length := by
  induction ts generalizing s with
  | nil => rfl
  | cons t ts ih => simp [targets_cons, ih]

/-- A property of sessions that neither a file nor a listing can break. -/
structure Kept (fs : FileSystem) (P : Session → Prop) : Prop where
  file : ∀ s p, P s → P (s.file fs p).1
  list : ∀ s warnings, P s → P (s.list warnings)

theorem Kept.files (h : Kept fs P) (hs : P s) (ps : List Path) : P (s.files fs ps).1 := by
  induction ps generalizing s with
  | nil => exact hs
  | cons p ps ih =>
    rw [files_cons]
    exact ih (h.file s p hs)

theorem Kept.target (h : Kept fs P) (hs : P s) (t : Target) : P (s.target fs dir t).1 := by
  rw [target_eq]
  exact h.files (h.list s _ hs) _

theorem Kept.targets (h : Kept fs P) (hs : P s) (ts : List Target) :
    P (s.targets fs dir ts).1 := by
  induction ts generalizing s with
  | nil => exact hs
  | cons t ts ih =>
    rw [targets_cons]
    exact ih (h.target hs t)

/-- What is known of a file was found in it, though it may have been spelt otherwise then. -/
def Remembers (fs : FileSystem) (s : Session) : Prop :=
  ∀ p found, s.cached? p = some found → ∃ n first lines, first.same p ∧
    fs.read n first = .ok lines ∧ found = SourceImport.ofLines first lines

theorem remembers_empty : Remembers fs {} := by
  intro p found h
  simp [cached?] at h

theorem remembers_file (h : Remembers fs s) (p : Path) : Remembers fs (s.file fs p).1 := by
  obtain ⟨found, _, hf⟩ | ⟨lines, _, hr, hf⟩ | ⟨error, _, _, hf⟩ := file_cases fs s p
  · rw [hf]
    exact h
  · rw [hf]
    intro q found hq
    rw [cached?_remember, Option.or_eq_some_iff] at hq
    obtain hq | ⟨_, hq⟩ := hq
    · exact h q found hq
    · by_cases hs : p.same q
      · simp only [hs, if_true, Option.some.injEq] at hq
        exact ⟨s.clock, p, lines, hs, hr, hq.symm⟩
      · simp [hs] at hq
  · rw [hf]
    intro q found hq
    rw [cached?_fail] at hq
    exact h q found hq

theorem remembers_list (h : Remembers fs s) (warnings : List Warning) :
    Remembers fs (s.list warnings) := by
  intro p found hp
  rw [cached?_list] at hp
  exact h p found hp

theorem kept_remembers : Kept fs (Remembers fs) where
  file _ p h := remembers_file h p
  list _ warnings h := remembers_list h warnings

end DependencyAudit.Session
