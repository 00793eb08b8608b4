import DependencyAudit.Proofs.Scan.Entries

/-!
The readings of a scan. A file is read again only as long as nobody could read it; what is remembered
of it was found by the first reading that succeeded.
-/
namespace DependencyAudit

variable {fs : FileSystem} {dir : Path} {package : Package}

namespace Session

variable {s : Session} {p q : Path} {r : Reading} {rs : List Reading} {lines : List String}

def Reading.Fails (r : Reading) : Prop := ∃ error, r.answer = .error error

/-- What is remembered of a reading. -/
def Reading.remembered? (r : Reading) : Option (List Component × List SourceImport) :=
  r.answer.toOption.map fun lines => (r.file.components, SourceImport.ofLines r.file lines)

theorem Reading.remembered?_of_ok (h : r.answer = .ok lines) :
    r.remembered? = some (r.file.components, SourceImport.ofLines r.file lines) := by
  rw [remembered?, h]
  rfl

theorem Reading.remembered?_eq_none_iff : r.remembered? = none ↔ r.Fails := by
  rw [remembered?, Fails]
  cases r.answer with
  | ok lines => simp [Except.toOption]
  | error error => simp [Except.toOption]

theorem Reading.components_of_remembered? {entry : List Component × List SourceImport}
    (h : r.remembered? = some entry) : entry.1 = r.file.components := by
  obtain ⟨_, _, rfl⟩ := Option.map_eq_some_iff.1 h
  rfl

/-- No reading of the file has succeeded so far, under whatever spelling. -/
def Unread (s : Session) (p : Path) : Prop := ∀ r ∈ s.readings, r.file.same p = true → r.Fails

/-- The first reading of a file that has succeeded, and the lines that it gave. -/
def FirstRead (s : Session) (r : Reading) (lines : List String) : Prop :=
  r.answer = .ok lines ∧ ∃ before after, s.readings = before ++ r :: after ∧
    ∀ b ∈ before, b.file.same r.file = true → b.Fails

/-- Everything that is remembered of a file. -/
def entries (s : Session) (p : Path) : List (List Component × List SourceImport) :=
  s.cache.filter fun entry => entry.1 = p.components

/-- Readings that failed leave nothing to remember of a file. -/
theorem filter_entries_eq_nil (h : ∀ r ∈ rs, r.file.same p = true → r.Fails) :
    (rs.filterMap Reading.remembered?).filter (fun entry => entry.1 = p.components) = [] := by
  rw [List.filter_eq_nil_iff]
  intro entry hentry hcomponents
  obtain ⟨r, hr, hsome⟩ := List.mem_filterMap.1 hentry
  have hsame : r.file.same p = true := by
    rw [Path.same_iff, ← Reading.components_of_remembered? hsome]
    exact of_decide_eq_true hcomponents
  rw [Reading.remembered?_eq_none_iff.2 (h r hr hsame)] at hsome
  cases hsome

/-- The readings are what the file system answered, none of a file comes after one that succeeded,
and what is remembered is what they gave. -/
structure Recalls (fs : FileSystem) (s : Session) : Prop where
  answered : ∀ r ∈ s.readings, fs.read r.number r.file = r.answer
  once : s.readings.Pairwise fun a b => a.file.same b.file = true → a.Fails
  cache_eq : s.cache = s.readings.filterMap Reading.remembered?

theorem Recalls.entries_of_unread (h : Recalls fs s) (hp : s.Unread p) : s.entries p = [] := by
  rw [entries, h.cache_eq]
  exact filter_entries_eq_nil hp

theorem Recalls.entries_of_firstRead (h : Recalls fs s) (hr : s.FirstRead r lines)
    (hp : r.file.same p = true) :
    s.entries p = [(r.file.components, SourceImport.ofLines r.file lines)] := by
  obtain ⟨hok, before, after, hsplit, hbefore⟩ := hr
  have honce := h.once
  rw [hsplit, List.pairwise_append, List.pairwise_cons] at honce
  have hafter : ∀ b ∈ after, b.file.same r.file = true → b.Fails := by
    intro b hb hsame
    obtain ⟨error, herror⟩ := honce.2.1.1 b hb (Path.same_symm hsame)
    rw [hok] at herror
    cases herror
  rw [entries, h.cache_eq, hsplit, ← Path.same_iff.1 hp, List.filterMap_append,
    List.filterMap_cons_some (Reading.remembered?_of_ok hok), List.filter_append,
    filter_entries_eq_nil hbefore, List.nil_append, List.filter_cons, if_pos (decide_eq_true rfl),
    filter_entries_eq_nil hafter]

/-- Nothing is remembered but what was read. -/
theorem Recalls.exists_reading (h : Recalls fs s) {entry : List Component × List SourceImport}
    (hentry : entry ∈ s.cache) : ∃ r ∈ s.readings, entry ∈ s.entries r.file := by
  have hcache := hentry
  rw [h.cache_eq] at hcache
  obtain ⟨r, hr, hsome⟩ := List.mem_filterMap.1 hcache
  refine ⟨r, hr, List.mem_filter.2 ⟨hentry, ?_⟩⟩
  exact decide_eq_true (Reading.components_of_remembered? hsome)

theorem cached?_eq_entries (s : Session) (p : Path) :
    s.cached? p = (s.entries p).head?.map Prod.snd := by
  rw [cached?, entries]
  induction s.cache with
  | nil => rfl
  | cons entry cache ih =>
    rw [List.lookup_cons, List.filter_cons]
    by_cases h : entry.1 = p.components
    · simp [h]
    · have hb : (p.components == entry.1) = false := by simpa using Ne.symm h
      simp [h, hb, ih]

theorem Reading.fails_iff : r.Fails ↔ ¬ ∃ lines, r.answer = .ok lines := by
  rw [Fails]
  cases r.answer with
  | ok lines => simp
  | error error => simp

/-- No file is without either: none of its readings succeeded, or one of them was the first. -/
theorem unread_or_firstRead (s : Session) (p : Path) :
    s.Unread p ∨ ∃ r lines, s.FirstRead r lines ∧ r.file.same p = true := by
  cases hf : s.readings.find? fun r => r.file.same p && r.answer.toOption.isSome with
  | none =>
    left
    intro r hr hsame
    have hnone := List.find?_eq_none.1 hf r hr
    rw [Reading.fails_iff]
    rintro ⟨lines, hok⟩
    exact hnone (by rw [hsame, hok]; rfl)
  | some r =>
    right
    obtain ⟨hfound, before, after, hsplit, hbefore⟩ := List.find?_eq_some_iff_append.1 hf
    obtain ⟨hsame, hsome⟩ := (Bool.and_eq_true _ _).mp hfound
    obtain ⟨lines, hlines⟩ := Option.isSome_iff_exists.1 hsome
    have hok : r.answer = .ok lines := by
      cases hr : r.answer with
      | ok ls => rw [hr] at hlines; exact congrArg Except.ok (Option.some.inj hlines)
      | error error => rw [hr] at hlines; cases hlines
    refine ⟨r, lines, ⟨hok, before, after, hsplit, ?_⟩, hsame⟩
    intro b hb hbsame
    have hnot := hbefore b hb
    rw [Reading.fails_iff]
    rintro ⟨ls, hbok⟩
    rw [Path.same_trans hbsame hsame, hbok] at hnot
    cases hnot

/-- The reading of a file that is not known. -/
def nextReading (fs : FileSystem) (s : Session) (p : Path) : Reading :=
  ⟨s.clock, p, fs.read s.clock p⟩

theorem file_of_known {found : List SourceImport} (h : s.cached? p = some found) :
    s.file fs p = (s, found) := by
  rw [file, h]

theorem file_of_unknown (h : s.cached? p = none) :
    (s.file fs p).1.readings = s.readings ++ [s.nextReading fs p] ∧
      (s.file fs p).1.cache = s.cache ++ (s.nextReading fs p).remembered?.toList := by
  rw [file, h, nextReading]
  dsimp only
  cases fs.read s.clock p with
  | ok lines => exact ⟨rfl, rfl⟩
  | error error => exact ⟨rfl, (List.append_nil _).symm⟩

theorem recalls_empty : Recalls fs {} where
  answered r hr := by cases hr
  once := .nil
  cache_eq := rfl

theorem Recalls.list (h : Recalls fs s) (warnings : List Warning) :
    Recalls fs (s.list warnings) where
  answered := h.answered
  once := h.once
  cache_eq := h.cache_eq

/-- All readings of a file that is not known failed. -/
theorem Recalls.unread (h : Recalls fs s) (hc : s.cached? p = none) : s.Unread p := by
  obtain hp | ⟨r, lines, hr, hp⟩ := s.unread_or_firstRead p
  · exact hp
  · rw [cached?_eq_entries, h.entries_of_firstRead hr hp] at hc
    cases hc

theorem Recalls.file (h : Recalls fs s) (p : Path) : Recalls fs (s.file fs p).1 := by
  cases hc : s.cached? p with
  | some found =>
    rw [file_of_known hc]
    exact h
  | none =>
    obtain ⟨hreadings, hcache⟩ := @file_of_unknown fs s p hc
    refine ⟨?_, ?_, ?_⟩
    · intro r hr
      rw [hreadings, List.mem_append, List.mem_singleton] at hr
      obtain hr | rfl := hr
      · exact h.answered r hr
      · rfl
    · rw [hreadings, List.pairwise_append]
      refine ⟨h.once, List.pairwise_singleton _ _, ?_⟩
      intro a ha b hb
      rw [List.mem_singleton.1 hb]
      exact h.unread hc a ha
    · rw [hcache, hreadings, List.filterMap_append, h.cache_eq]
      cases he : (s.nextReading fs p).remembered? <;> simp [he]

theorem kept_recalls : Kept fs (Recalls fs) where
  file _ p h := h.file p
  list _ warnings h := h.list warnings

/-- The readings that were made stay the first ones. -/
theorem kept_readings (rs : List Reading) : Kept fs fun s => rs <+: s.readings where
  file s p h := by
    cases hc : s.cached? p with
    | some found =>
      rw [file_of_known hc]
      exact h
    | none =>
      rw [(file_of_unknown hc).1]
      exact h.trans (List.prefix_append _ _)
  list _ _ h := h

theorem files_append (s : Session) (ps qs : List Path) :
    (s.files fs (ps ++ qs)).1 = ((s.files fs ps).1.files fs qs).1 := by
  induction ps generalizing s with
  | nil => rfl
  | cons p ps ih =>
    rw [List.cons_append, files_cons, files_cons]
    exact ih _

end Session

/-- The sessions that a scan of the package goes through: the one before each turn of a target and
the last one, and in a turn the one after the listing and those after each of the files. -/
inductive Package.Passes (fs : FileSystem) (dir : Path) (package : Package) : Session → Prop
  | between {before after : List Target} : package.targets = before ++ after →
    Passes fs dir package (Session.targets fs dir {} before).1
  | within {before after : List Target} {t : Target} {done rest : List Path} :
    package.targets = before ++ t :: after →
    t.sources (Package.listing fs dir before t) = done ++ rest →
    Passes fs dir package
      (((Session.targets fs dir {} before).1.list
        (t.objections (Package.listing fs dir before t))).files fs done).1

namespace Package.Passes

variable {s : Session} {P : Session → Prop}

theorem kept (h : package.Passes fs dir s) (hk : Session.Kept fs P) (hempty : P {}) : P s := by
  cases h with
  | between _ => exact hk.targets hempty _
  | within _ _ => exact hk.files (hk.list _ _ (hk.targets hempty _)) _

/-- What a session cannot lose before the end of the scan. -/
theorem kept_scan (h : package.Passes fs dir s) (hk : Session.Kept fs P) (hs : P s) :
    P (package.scanSession fs dir).1 := by
  have hscan : (package.scanSession fs dir).1 = (Session.targets fs dir {} package.targets).1 := rfl
  rw [hscan]
  cases h with
  | between htargets =>
    rw [htargets, Session.targets_append]
    exact hk.targets hs _
  | @within before after t done rest htargets hsources =>
    rw [htargets, Session.targets_append, Session.targets_cons]
    refine hk.targets ?_ after
    have hturn : ((Session.targets fs dir {} before).1.target fs dir t).1 =
        (((Session.targets fs dir {} before).1.list
          (t.objections (Package.listing fs dir before t))).files fs (done ++ rest)).1 := by
      rw [← hsources]
      rfl
    rw [hturn, Session.files_append]
    exact hk.files hs rest

theorem scanned (fs : FileSystem) (dir : Path) (package : Package) :
    package.Passes fs dir (package.scanSession fs dir).1 :=
  .between (List.append_nil _).symm

end Package.Passes

/-- A file that was read is not read again, whatever the spelling. Whenever a scan is looked at, the
memory holds of each file what its first successful reading gave, under the spelling used then, and
of a file without one nothing; the latter is read when its turn comes, the former is not. -/
theorem scan_reads_once (fs : FileSystem) (dir : Path) (package : Package) :
    ((package.scanSession fs dir).1.readings.Pairwise fun a b =>
      a.file.same b.file = true → a.Fails) ∧
    ∀ s, package.Passes fs dir s →
      s.readings <+: (package.scanSession fs dir).1.readings ∧
      (∀ r ∈ s.readings, fs.read r.number r.file = r.answer) ∧
      (∀ entry ∈ s.cache, ∃ r ∈ s.readings, entry ∈ s.entries r.file) ∧
      ∀ p, (s.Unread p ∨ ∃ r lines, s.FirstRead r lines ∧ r.file.same p = true) ∧
        (s.Unread p → s.entries p = [] ∧
          (s.file fs p).1.readings = s.readings ++ [⟨s.clock, p, fs.read s.clock p⟩]) ∧
        ∀ r lines, s.FirstRead r lines → r.file.same p = true →
          s.entries p = [(r.file.components, SourceImport.ofLines r.file lines)] ∧
          s.file fs p = (s, SourceImport.ofLines r.file lines) := by
  have hrecalls : ∀ s, package.Passes fs dir s → Session.Recalls fs s := fun s hs =>
    hs.kept Session.kept_recalls Session.recalls_empty
  refine ⟨(hrecalls _ (Package.Passes.scanned fs dir package)).once, ?_⟩
  intro s hs
  have h := hrecalls s hs
  refine ⟨hs.kept_scan (Session.kept_readings s.readings) (List.prefix_refl _), h.answered,
    fun entry hentry => h.exists_reading hentry, ?_⟩
  intro p
  refine ⟨s.unread_or_firstRead p, ?_, ?_⟩
  · intro hp
    have hentries := h.entries_of_unread hp
    have hc : s.cached? p = none := by rw [Session.cached?_eq_entries, hentries]; rfl
    exact ⟨hentries, (Session.file_of_unknown hc).1⟩
  · intro r lines hr hp
    have hentries := h.entries_of_firstRead hr hp
    have hc : s.cached? p = some (SourceImport.ofLines r.file lines) := by
      rw [Session.cached?_eq_entries, hentries]
      rfl
    exact ⟨hentries, Session.file_of_known hc⟩

/-- Every directory lists one file under two spellings, which cannot be read at first. -/
def wakingDisk : FileSystem where
  list _ _ := [⟨"/p/A.swift"⟩, ⟨"/p//A.swift"⟩]
  read n _ := if n < 2 then .error .absent else .ok ["import Core"]

/-- What any target without exclusions makes of that directory. -/
theorem target_waking (s : Session) {t : Target} (he : t.exclude = []) :
    (s.target wakingDisk ⟨"/p"⟩ t).1 =
      ((s.list []).files wakingDisk [⟨"/p/A.swift"⟩, ⟨"/p//A.swift"⟩]).1 := by
  have hkept : ∀ file ∈ [(⟨"/p/A.swift"⟩ : Path), ⟨"/p//A.swift"⟩], t.objection? file = none := by
    have hsource : ∀ file ∈ [(⟨"/p/A.swift"⟩ : Path), ⟨"/p//A.swift"⟩], file.isSource = true := by
      decide +kernel
    intro file hfile
    simp [Target.objection?, Target.excludes, he, hsource file hfile]
  have hobjections : t.objections [⟨"/p/A.swift"⟩, ⟨"/p//A.swift"⟩] = [] :=
    List.filterMap_eq_nil_iff.2 hkept
  have hsources : t.sources [⟨"/p/A.swift"⟩, ⟨"/p//A.swift"⟩] =
      [⟨"/p/A.swift"⟩, ⟨"/p//A.swift"⟩] := by
    rw [Target.sources, List.filter_eq_self.2 fun file hfile => by rw [hkept file hfile]; rfl]
    exact List.mergeSort_of_pairwise (by decide +kernel)
  rw [Session.target_eq]
  dsimp only [Session.listing, wakingDisk]
  rw [hobjections, hsources]

theorem readings_waking :
    (Package.scanSession ⟨"P", [firstSharing, secondSharing]⟩ wakingDisk ⟨"/p"⟩).1.readings =
      [⟨1, ⟨"/p/A.swift"⟩, .error .absent⟩, ⟨2, ⟨"/p//A.swift"⟩, .ok ["import Core"]⟩] := by
  have hscan : (Package.scanSession ⟨"P", [firstSharing, secondSharing]⟩ wakingDisk ⟨"/p"⟩).1 =
      ((Session.target wakingDisk ⟨"/p"⟩ {} firstSharing).1.target
        wakingDisk ⟨"/p"⟩ secondSharing).1 := rfl
  rw [hscan, target_waking _ rfl, target_waking _ rfl]
  rfl

/-- The second spelling is remembered, under which the file was read at last, and neither the second
target nor anyone after it reads the file again. -/
theorem scan_reads_once_waking :
    let package : Package := ⟨"P", [firstSharing, secondSharing]⟩
    let s := (package.scanSession wakingDisk ⟨"/p"⟩).1
    let r : Session.Reading := ⟨2, ⟨"/p//A.swift"⟩, .ok ["import Core"]⟩
    package.Passes wakingDisk ⟨"/p"⟩ s ∧ s.FirstRead r ["import Core"] ∧
      r.file.same ⟨"/p/A.swift"⟩ = true ∧ s.Unread ⟨"/p/B.swift"⟩ ∧
      s.entries ⟨"/p/A.swift"⟩ = [([.root, .name "p", .name "A.swift"],
        [⟨⟨"/p//A.swift"⟩, 1, "import Core", "Core"⟩])] ∧
      s.entries ⟨"/p/B.swift"⟩ = [] ∧ (s.file wakingDisk ⟨"/p/A.swift"⟩).1 = s := by
  intro package s r
  have hpasses : package.Passes wakingDisk ⟨"/p"⟩ s := Package.Passes.scanned _ _ _
  have hfirst : s.FirstRead r ["import Core"] := by
    refine ⟨rfl, [⟨1, ⟨"/p/A.swift"⟩, .error .absent⟩], [], readings_waking, ?_⟩
    intro b hb _
    rw [List.mem_singleton.1 hb]
    exact ⟨.absent, rfl⟩
  have hsame : r.file.same ⟨"/p/A.swift"⟩ = true := by decide +kernel
  have hunread : s.Unread ⟨"/p/B.swift"⟩ := by
    have hother : ∀ a ∈ s.readings, a.file.same ⟨"/p/B.swift"⟩ = false := by
      rw [readings_waking]
      decide +kernel
    intro a ha hb
    rw [hother a ha] at hb
    cases hb
  obtain ⟨_, hpoints⟩ := scan_reads_once wakingDisk ⟨"/p"⟩ package
  obtain ⟨_, _, _, hfiles⟩ := hpoints s hpasses
  obtain ⟨hentries, hfile⟩ := (hfiles ⟨"/p/A.swift"⟩).2.2 r _ hfirst hsame
  have hnone := ((hfiles ⟨"/p/B.swift"⟩).2.1 hunread).1
  refine ⟨hpasses, hfirst, hsame, hunread, ?_, hnone, by rw [hfile]⟩
  rw [hentries]
  decide +kernel

end DependencyAudit
