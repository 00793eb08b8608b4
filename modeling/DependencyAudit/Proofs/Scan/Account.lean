import DependencyAudit.Proofs.Scan.Entries

/-!
What becomes of the files that are listed. Each of them is left out, or cannot be read, or gives all
its imports; of the first two a scan tells, once for every time that the file is listed. A file that
cannot be read changes nothing else.
-/
namespace DependencyAudit

variable {fs fs' : FileSystem} {dir : Path} {p q : Path}

namespace FileSystem

/-- Whether a file can be read. -/
def reads (fs : FileSystem) (file : Path) : Bool := (fs.read 0 file).toOption.isSome

/-- A warning that names a file and a cause for which the file system does not let it be read. -/
def Refuses (fs : FileSystem) (file : Path) (warning : Warning) : Prop :=
  ∃ n error, fs.read n file = .error error ∧ warning = .unreadable file error

theorem ReadsAlike.reads_of_ok (hr : fs.ReadsAlike) {n : Nat} {lines : List String}
    (h : fs.read n p = .ok lines) (hpq : p.same q) : fs.reads q = true := by
  rw [reads, ← hr n 0 p q hpq, h]
  rfl

theorem ReadsAlike.reads_of_error (hr : fs.ReadsAlike) {n : Nat} {error : ReadError}
    (h : fs.read n p = .error error) : fs.reads p = false := by
  rw [reads, ← hr n 0 p p (Path.same_refl p), h]
  rfl

theorem plain_of_not_reads (h : fs.reads p = false) : fs.plain p = [] := by
  have hnone : (fs.read 0 p).toOption = none := by simpa [reads] using h
  rw [plain_of_toOption hnone]
  rfl

/-- Files that cannot be read hold no imports. -/
theorem flatMap_plain_filter_reads (files : List Path) :
    (files.filter fs.reads).flatMap fs.plain = files.flatMap fs.plain := by
  induction files with
  | nil => rfl
  | cons file files ih =>
    cases h : fs.reads file with
    | true => simp [h, ih]
    | false => simp [h, ih, plain_of_not_reads h]

end FileSystem

/-- Why a file that is listed does not belong to the target. -/
inductive Target.Drops (t : Target) (file : Path) : Warning → Prop
  | nonSource : file.isSource = false → t.Drops file (.nonSource file)
  | excluded {fragment : String} : file.isSource = true → fragment ∈ t.exclude →
    fragment.toList <:+: file.text.toList → t.Drops file (.excluded file)

theorem Target.excludes_iff {t : Target} {file : Path} : t.excludes file = true ↔
    ∃ fragment ∈ t.exclude, fragment.toList <:+: file.text.toList := by
  rw [excludes, List.any_eq_true]
  refine exists_congr fun fragment => and_congr_right fun _ => ?_
  rw [Path.mentions, Text.holds_eq_true_iff]
  constructor
  · rintro ⟨before, rest, h⟩
    exact ⟨before, rest, h.symm⟩
  · rintro ⟨before, rest, h⟩
    exact ⟨before, rest, h.symm⟩

/-- A listed file belongs to the target, or there is a reason why not. -/
theorem Target.objection?_cases (t : Target) (file : Path) :
    ((file.isSource && !t.excludes file) = true ∧ t.objection? file = none) ∨
    ((file.isSource && !t.excludes file) = false ∧
      ∃ warning, t.objection? file = some warning ∧ t.Drops file warning) := by
  cases hs : file.isSource with
  | false => exact Or.inr ⟨rfl, .nonSource file, by simp [objection?, hs], .nonSource hs⟩
  | true =>
    cases he : t.excludes file with
    | false => exact Or.inl ⟨rfl, by simp [objection?, hs, he]⟩
    | true =>
      obtain ⟨fragment, hmem, hpart⟩ := excludes_iff.1 he
      exact Or.inr ⟨rfl, .excluded file, by simp [objection?, hs, he], .excluded hs hmem hpart⟩

theorem Target.forall₂_drops (t : Target) (listed : List Path) :
    List.Forall₂ t.Drops (listed.filter fun file => !(file.isSource && !t.excludes file))
      (t.objections listed) := by
  induction listed with
  | nil => exact .nil
  | cons file listed ih =>
    rw [objections, List.filterMap_cons, List.filter_cons]
    rcases t.objection?_cases file with ⟨hkeep, hnone⟩ | ⟨hkeep, warning, hsome, hdrops⟩
    · rw [hkeep, hnone]
      exact ih
    · rw [hkeep, hsome]
      exact .cons hdrops ih

/-- What a target's turn tells and finds, given the files that are listed for it: a warning for every
file that does not belong to the target, in the order of the listing, one for every file that cannot
be read, in the order of paths, and the imports of all others. -/
inductive Target.Accounts (fs : FileSystem) (t : Target) (listed : List Path)
    (warnings : List Warning) (entry : TargetImports) : Prop
  | intro {files : List Path} {drops refusals : List Warning} :
    List.Forall₂ t.Drops (listed.filter fun file => !(file.isSource && !t.excludes file)) drops →
    t.Arranges listed files →
    List.Forall₂ fs.Refuses (files.filter fun file => !fs.reads file) refusals →
    warnings = drops ++ refusals →
    entry.target = t.name → entry.kind = t.kind →
    List.Forall₂ (fun i j => i.same j = true) entry.imports
      ((files.filter fs.reads).flatMap fs.plain) →
    Accounts fs t listed warnings entry

namespace Session

variable {s s' : Session} {t : Target}

/-- A file is told about if it cannot be read, and only then. -/
theorem exists_refusals_file (hr : fs.ReadsAlike) (hs : Remembers fs s) (p : Path) :
    ∃ refusals, (s.file fs p).1.warnings = s.warnings ++ refusals ∧
      List.Forall₂ fs.Refuses ([p].filter fun file => !fs.reads file) refusals := by
  rcases file_cases fs s p with
    ⟨found, hc, hf⟩ | ⟨lines, _, hread, hf⟩ | ⟨error, _, hread, hf⟩
  · obtain ⟨n, first, lines, hsame, hread, _⟩ := hs p found hc
    refine ⟨[], by rw [hf, List.append_nil], ?_⟩
    simp [hr.reads_of_ok hread hsame]
  · refine ⟨[], by rw [hf, List.append_nil]; rfl, ?_⟩
    simp [hr.reads_of_ok hread (Path.same_refl p)]
  · refine ⟨[.unreadable p error], by rw [hf]; rfl, ?_⟩
    have hrefuses : fs.Refuses p (.unreadable p error) := ⟨s.clock, error, hread, rfl⟩
    simpa [hr.reads_of_error hread] using hrefuses

theorem exists_refusals_files (hr : fs.ReadsAlike) (hs : Remembers fs s) (ps : List Path) :
    ∃ refusals, (s.files fs ps).1.warnings = s.warnings ++ refusals ∧
      List.Forall₂ fs.Refuses (ps.filter fun file => !fs.reads file) refusals := by
  induction ps generalizing s with
  | nil => exact ⟨[], (List.append_nil _).symm, .nil⟩
  | cons p ps ih =>
    obtain ⟨first, hfirst, hp⟩ := exists_refusals_file hr hs p
    obtain ⟨rest, hrest, hps⟩ := ih (remembers_file hs p)
    refine ⟨first ++ rest, ?_, ?_⟩
    · rw [files_cons, hrest, hfirst, List.append_assoc]
    · rw [← List.singleton_append, List.filter_append]
      exact List.rel_append hp hps

/-- A target's turn accounts for all files that are listed for it. -/
theorem accounts_target (hr : fs.ReadsAlike) (dir : Path) (hs : Remembers fs s) (t : Target) :
    ∃ warnings, (s.target fs dir t).1.warnings = s.warnings ++ warnings ∧
      t.Accounts fs (s.listing fs dir t) warnings (s.target fs dir t).2 := by
  have harranges := t.arranges_sources (s.listing fs dir t)
  obtain ⟨refusals, hwarnings, hrefusals⟩ :=
    exists_refusals_files hr (remembers_list hs (t.objections (s.listing fs dir t)))
      (t.sources (s.listing fs dir t))
  refine ⟨t.objections (s.listing fs dir t) ++ refusals, ?_,
    .intro (t.forall₂_drops _) harranges hrefusals rfl rfl rfl ?_⟩
  · rw [target_eq, ← List.append_assoc]
    exact hwarnings
  · rw [FileSystem.flatMap_plain_filter_reads]
    exact SourceImport.forall₂_same_iff.2 (map_key_target hr hs harranges)

/-- What a run of targets tells is what their turns tell, one after the other. -/
theorem accounts_targets (hr : fs.ReadsAlike) (dir : Path) (hs : Remembers fs s)
    (ts : List Target) :
    ∃ turns : List (List Warning),
      (s.targets fs dir ts).1.warnings = s.warnings ++ turns.flatten ∧ turns.length = ts.length ∧
      ∀ before t after, ts = before ++ t :: after → ∃ warnings entry,
        turns[before.length]? = some warnings ∧
        (s.targets fs dir ts).2[before.length]? = some entry ∧
        t.Accounts fs ((s.targets fs dir before).1.listing fs dir t) warnings entry := by
  induction ts generalizing s with
  | nil =>
    refine ⟨[], (List.append_nil _).symm, rfl, ?_⟩
    intro before t after h
    simp at h
  | cons u us ih =>
    obtain ⟨warnings, hwarnings, haccounts⟩ := accounts_target hr dir hs u
    obtain ⟨turns, hturns, hlength, hrest⟩ := ih (kept_remembers.target hs u)
    refine ⟨warnings :: turns, ?_, ?_, ?_⟩
    · rw [targets_cons, hturns, hwarnings, List.flatten_cons, List.append_assoc]
    · rw [List.length_cons, List.length_cons, hlength]
    · intro before t after h
      cases before with
      | nil =>
        obtain ⟨rfl, rfl⟩ := List.cons.inj h
        exact ⟨warnings, (s.target fs dir u).2, rfl, rfl, haccounts⟩
      | cons v before =>
        rw [List.cons_append] at h
        obtain ⟨rfl, rfl⟩ := List.cons.inj h
        exact hrest before t after rfl

end Session

theorem Target.Arranges.filter {t : Target} {listed files : List Path}
    (h : t.Arranges listed files) (keep : Path → Bool) :
    t.Arranges (listed.filter keep) (files.filter keep) where
  perm := by
    refine (h.perm.filter keep).trans (List.Perm.of_eq ?_)
    rw [List.filter_filter, List.filter_filter]
    exact List.filter_congr fun file _ => Bool.and_comm _ _
  ordered := h.ordered.filter keep

namespace FileSystem

/-- The file system whose listings leave out the files that cannot be read. -/
def readable (fs : FileSystem) : FileSystem where
  list n dir := (fs.list n dir).filter fs.reads
  read := fs.read

/-- The same files, of which a scan of the package is listed those only that can be read. -/
structure Thins (fs fs' : FileSystem) (dir : Path) (package : Package) : Prop where
  files : fs.SameFiles fs'
  lists : ∀ before t after, package.targets = before ++ t :: after →
    Package.listing fs' dir before t = (Package.listing fs dir before t).filter fs.reads

theorem thins_readable (hr : fs.ReadsAlike) (hl : fs.ListsAlike) (dir : Path)
    (package : Package) : fs.Thins fs.readable dir package where
  files := hr
  lists before t _ _ := by
    have hlist := hl (Session.targets fs.readable dir {} before).1.clock
      (Session.targets fs dir {} before).1.clock (t.sourceDirectory dir)
    exact congrArg (List.filter fs.reads) hlist

end FileSystem

namespace Session

variable {s s' : Session}

/-- Files that cannot be read leave no trace in the entry of a target. -/
theorem same_target (h : fs.SameFiles fs') (hs : Remembers fs s) (hs' : Remembers fs' s')
    {t : Target} (hl : s'.listing fs' dir t = (s.listing fs dir t).filter fs.reads) :
    (s.target fs dir t).2.Same (s'.target fs' dir t).2 where
  target := rfl
  kind := rfl
  imports := by
    have ha := t.arranges_sources (s.listing fs dir t)
    have ha' : t.Arranges (s'.listing fs' dir t)
        ((t.sources (s.listing fs dir t)).filter fs.reads) := by
      rw [hl]
      exact ha.filter fs.reads
    have hplain : fs.plain = fs'.plain := funext h.plain_eq
    rw [SourceImport.forall₂_same_iff, map_key_target h.readsAlike hs ha,
      map_key_target h.readsAlike' hs' ha', ← hplain, FileSystem.flatMap_plain_filter_reads]

theorem same_targets (h : fs.SameFiles fs') (hs : Remembers fs s) (hs' : Remembers fs' s')
    {ts : List Target} (hl : ∀ before t after, ts = before ++ t :: after →
      (s'.targets fs' dir before).1.listing fs' dir t =
        ((s.targets fs dir before).1.listing fs dir t).filter fs.reads) :
    List.Forall₂ TargetImports.Same (s.targets fs dir ts).2 (s'.targets fs' dir ts).2 := by
  induction ts generalizing s s' with
  | nil => exact .nil
  | cons u us ih =>
    rw [targets_cons, targets_cons]
    refine .cons (same_target h hs hs' (hl [] u us rfl)) ?_
    apply ih (kept_remembers.target hs u) (kept_remembers.target hs' u)
    rintro before t after rfl
    exact hl (u :: before) t after rfl

end Session

/-- A scan tells of every listed file that it does not use, target by target, and uses all the
others. It finds what it would find if the files that cannot be read were not listed. -/
theorem scan_accounts (hr : fs.ReadsAlike) (dir : Path) (package : Package) :
    (∃ turns : List (List Warning),
      (package.scanSession fs dir).1.warnings = turns.flatten ∧
      turns.length = package.targets.length ∧
      ∀ before t after, package.targets = before ++ t :: after → ∃ warnings entry,
        turns[before.length]? = some warnings ∧
        (package.scan fs dir).targets[before.length]? = some entry ∧
        t.Accounts fs (Package.listing fs dir before t) warnings entry) ∧
    (∀ fs', fs.Thins fs' dir package → List.Forall₂ TargetImports.Same
      (package.scan fs dir).targets (package.scan fs' dir).targets) ∧
    (fs.ListsAlike → List.Forall₂ TargetImports.Same
      (package.scan fs dir).targets (package.scan fs.readable dir).targets) := by
  have hthinned : ∀ fs', fs.Thins fs' dir package → List.Forall₂ TargetImports.Same
      (package.scan fs dir).targets (package.scan fs' dir).targets := by
    intro fs' h
    exact Session.same_targets h.files Session.remembers_empty Session.remembers_empty h.lists
  refine ⟨?_, hthinned, fun hl => hthinned _ (FileSystem.thins_readable hr hl dir package)⟩
  obtain ⟨turns, hturns, haccounts⟩ :=
    Session.accounts_targets hr dir Session.remembers_empty package.targets
  exact ⟨turns, hturns, haccounts⟩

/-- What any target without exclusions has to tell about the shared directory. -/
theorem warnings_of_accounts_sharedDisk {t : Target} {warnings : List Warning}
    {entry : TargetImports} (he : t.exclude = [])
    (h : t.Accounts sharedDisk (sharedDisk.list 0 ⟨"/p"⟩) warnings entry) :
    warnings = [.nonSource ⟨"/p/README.md"⟩,
      .unreadable ⟨"/p/Locked.swift"⟩ (.failed .permissionDenied)] := by
  obtain @⟨files, drops, refusals, hdrops, harranges, hrefusals, rfl, _, _, _⟩ := h
  have hexcludes : ∀ file, t.excludes file = false := by simp [Target.excludes, he]
  simp only [hexcludes, Bool.not_false, Bool.and_true] at hdrops
  have hleft : ((sharedDisk.list 0 ⟨"/p"⟩).filter fun file => !file.isSource) =
      [⟨"/p/README.md"⟩] := by decide +kernel
  rw [hleft] at hdrops
  have hperm := harranges.perm.filter fun file => !sharedDisk.reads file
  simp only [hexcludes, Bool.not_false, Bool.and_true] at hperm
  have hlocked : (((sharedDisk.list 0 ⟨"/p"⟩).filter fun file => file.isSource).filter
      fun file => !sharedDisk.reads file) = [⟨"/p/Locked.swift"⟩] := by decide +kernel
  rw [hlocked, List.perm_singleton] at hperm
  rw [hperm] at hrefusals
  obtain _ | ⟨hdrop, _ | _⟩ := hdrops
  obtain _ | ⟨⟨n, error, hread, rfl⟩, _ | _⟩ := hrefusals
  have herror : error = .failed .permissionDenied := (Except.error.inj hread).symm
  cases hdrop with
  | nonSource _ => rw [herror]; rfl
  | excluded _ hmem _ => simp [he] at hmem

/-- Two targets share a directory with a file that cannot be read: both tell of it, and both find
what they would find if it were not listed. -/
theorem scan_accounts_shared :
    let package : Package := ⟨"P", [firstSharing, secondSharing]⟩
    let locked : Warning := .unreadable ⟨"/p/Locked.swift"⟩ (.failed .permissionDenied)
    sharedDisk.ReadsAlike ∧ sharedDisk.Thins sharedDisk.readable ⟨"/p"⟩ package ∧
      (package.scanSession sharedDisk ⟨"/p"⟩).1.warnings =
        [.nonSource ⟨"/p/README.md"⟩, locked, .nonSource ⟨"/p/README.md"⟩, locked] ∧
      List.Forall₂ TargetImports.Same (package.scan sharedDisk ⟨"/p"⟩).targets
        (package.scan sharedDisk.readable ⟨"/p"⟩).targets := by
  intro package locked
  have hlists : sharedDisk.ListsAlike := fun _ _ _ => rfl
  have hthins := FileSystem.thins_readable sharedDisk_readsAlike hlists ⟨"/p"⟩ package
  obtain ⟨⟨turns, hturns, hlength, haccounts⟩, _, hsame⟩ :=
    scan_accounts sharedDisk_readsAlike ⟨"/p"⟩ package
  refine ⟨sharedDisk_readsAlike, hthins, ?_, hsame hlists⟩
  obtain ⟨first, _, hfirst, _, haccount⟩ := haccounts [] firstSharing [secondSharing] rfl
  obtain ⟨second, _, hsecond, _, haccount'⟩ := haccounts [firstSharing] secondSharing [] rfl
  rw [warnings_of_accounts_sharedDisk rfl haccount] at hfirst
  rw [warnings_of_accounts_sharedDisk rfl haccount'] at hsecond
  obtain ⟨a, b, rfl⟩ := List.length_eq_two.1 hlength
  obtain rfl := Option.some.inj hfirst
  obtain rfl := Option.some.inj hsecond
  exact hturns

end DependencyAudit
