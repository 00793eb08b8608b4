import DependencyAudit.Proofs.Audit.Respelling
import DependencyAudit.Report.Listing

/-!
The order in which a directory is walked. Whatever order the files of a directory are listed in, a
scan finds the same imports up to the spelling of their files, and the report on them is the same
text.
-/
namespace DependencyAudit

variable {p q : Path} {i j : SourceImport} {f g : Finding}

namespace Path

theorem isSome_fileName?_of_isSource (h : p.isSource = true) : p.fileName?.isSome = true := by
  cases hn : p.fileName? with
  | some name => rfl
  | none => simp [isSource, extension?, hn] at h

theorem fileName?_of_same (h : p.same q = true) : p.fileName? = q.fileName? := by
  rw [fileName?, fileName?, same_iff.1 h]

/-- A file that has a name is shown alike under all its spellings. -/
theorem displayName_of_same (h : p.same q = true) (hp : p.fileName?.isSome = true) :
    p.displayName = q.displayName := by
  obtain ⟨name, hname⟩ := Option.isSome_iff_exists.1 hp
  rw [displayName, displayName, ← fileName?_of_same h, hname]
  rfl

end Path

theorem SourceImport.file_of_mem_declared {n : Nat} {lines : List String}
    (h : i ∈ declared p n lines) : i.file = p := by
  induction lines generalizing n with
  | nil => exact (List.not_mem_nil h).elim
  | cons rawText lines ih =>
    rw [declared] at h
    cases hm : ImportLine.module? rawText with
    | none =>
      rw [hm] at h
      exact ih h
    | some moduleName =>
      rw [hm] at h
      obtain rfl | h := List.mem_cons.1 h
      · rfl
      · exact ih h

theorem Target.isSource_of_mem_sources {t : Target} {listed : List Path}
    (h : p ∈ t.sources listed) : p.isSource = true := by
  have hmem := (List.mem_filter.1 ((t.arranges_sources listed).perm.mem_iff.1 h)).2
  exact (Bool.and_eq_true_iff.1 hmem).1

namespace FileSystem

variable {fs fs' : FileSystem}

theorem file_of_mem_plain (h : i ∈ fs.plain p) : i.file = p := by
  rw [plain] at h
  split at h
  · exact SourceImport.file_of_mem_declared h
  · exact (List.not_mem_nil h).elim

/-- Two file systems that hold the same files, and that list those of a directory in orders of their
own, which may change from one listing to the next. -/
structure SameTree (fs fs' : FileSystem) : Prop where
  reads : ∀ n m p q, p.same q = true → (fs.read n p).toOption = (fs'.read m q).toOption
  lists : ∀ n m dir, (fs.list n dir).Perm (fs'.list m dir)

theorem SameTree.sameFiles (h : fs.SameTree fs') : fs.SameFiles fs' := h.reads

end FileSystem

namespace Session

variable {fs fs' : FileSystem} {dir : Path} {s s' : Session} {t : Target}

/-- What a scan finds in a target has a name to be shown under. -/
theorem isSome_fileName?_of_mem_target (hr : fs.ReadsAlike) (hs : Remembers fs s)
    (hi : i ∈ (s.target fs dir t).2.imports) : i.file.fileName?.isSome = true := by
  have hkeys := map_key_target hr hs (t.arranges_sources (s.listing fs dir t))
  have hmem := List.mem_map_of_mem (f := SourceImport.key) hi
  rw [hkeys] at hmem
  obtain ⟨j, hj, hkey⟩ := List.mem_map.1 hmem
  obtain ⟨file, hfile, hj⟩ := List.mem_flatMap.1 hj
  have hsame := SourceImport.same_iff_key.2 hkey
  simp only [SourceImport.same, Bool.and_eq_true] at hsame
  rw [← Path.fileName?_of_same hsame.1.1.1, FileSystem.file_of_mem_plain hj]
  exact Path.isSome_fileName?_of_isSource (Target.isSource_of_mem_sources hfile)

/-- A target is given the same entry, up to spelling, whatever was found in it before. -/
theorem respelt_target (h : fs.SameTree fs') (hs : Remembers fs s) (hs' : Remembers fs' s')
    (t : Target) : (s.target fs dir t).2.Respelt (s'.target fs' dir t).2 where
  target := rfl
  kind := rfl
  imports := by
    have hperm := h.lists s.clock s'.clock (t.sourceDirectory dir)
    have ha := t.arranges_sources (s.listing fs dir t)
    -- the files in the order of the first listing serve the second one too
    have ha' : t.Arranges (s'.listing fs' dir t) (t.sources (s.listing fs dir t)) :=
      ⟨ha.perm.trans (hperm.filter _), ha.ordered⟩
    have hplain : fs.plain = fs'.plain := funext h.sameFiles.plain_eq
    have hkeys : (s.target fs dir t).2.imports.map SourceImport.key =
        (s'.target fs' dir t).2.imports.map SourceImport.key := by
      rw [map_key_target h.sameFiles.readsAlike hs ha,
        map_key_target h.sameFiles.readsAlike' hs' ha', hplain]
    have hsame := SourceImport.forall₂_same_iff.2 hkeys
    refine List.forall₂_iff_get.2 ⟨hsame.length_eq, ?_⟩
    intro n hn hn'
    have hij := hsame.get hn hn'
    have hfile := hij
    simp only [SourceImport.same, Bool.and_eq_true] at hfile
    exact ⟨hij, Path.displayName_of_same hfile.1.1.1
      (isSome_fileName?_of_mem_target h.sameFiles.readsAlike hs (List.get_mem _ _))⟩

theorem respelt_targets (h : fs.SameTree fs') (hs : Remembers fs s) (hs' : Remembers fs' s')
    (ts : List Target) :
    List.Forall₂ TargetImports.Respelt (s.targets fs dir ts).2 (s'.targets fs' dir ts).2 := by
  induction ts generalizing s s' with
  | nil => exact .nil
  | cons t ts ih =>
    rw [targets_cons, targets_cons]
    exact .cons (respelt_target h hs hs' t)
      (ih (kept_remembers.target hs t) (kept_remembers.target hs' t))

end Session

namespace Finding

theorem Alike.target (h : f.Alike g) : f.target = g.target := by
  cases h <;> rfl

theorem Alike.label (h : f.Alike g) : f.label = g.label := by
  cases h <;> rfl

theorem Alike.details (h : f.Alike g) : f.details = g.details := by
  cases h with
  | missing target hij | redundantImport target hij =>
    have hline := congrArg (·.2.1) (SourceImport.same_iff_key.1 hij.same)
    simp only [SourceImport.key] at hline
    delta Finding.details
    dsimp only
    rw [hij.shown, hline, hij.moduleName]
  | unused target d | redundantDependency target d => rfl

end Finding

namespace Report

variable {fs gs : List Finding}

theorem printJson_eq_of_alike (h : List.Forall₂ Finding.Alike fs gs) :
    printJson fs = printJson gs := by
  have hrecords : fs.map record = gs.map record := by
    induction h with
    | nil => rfl
    | cons hfg _ ih =>
      rw [List.map_cons, List.map_cons, ih, record, record, hfg.target, hfg.label, hfg.details]
  rw [printJson, printJson, hrecords]

theorem bodyLines_eq_of_alike (h : List.Forall₂ Finding.Alike fs gs) (number : Nat) :
    bodyLines number fs = bodyLines number gs := by
  induction h generalizing number with
  | nil => rfl
  | cons hfg _ ih =>
    rw [bodyLines, bodyLines, ih, cells, cells, hfg.target, hfg.label, hfg.details]

theorem table_eq_of_alike (h : List.Forall₂ Finding.Alike fs gs) : table fs = table gs := by
  rw [table, table, tableLines, tableLines, bodyLines_eq_of_alike h]

/-- Over two walks of one tree an audit finds the same in the same order, and the reports are equal
letter by letter. -/
theorem report_sameTree {fs fs' : FileSystem} (h : fs.SameTree fs') (dir : Path) (package : Package)
    (policy : Policy) :
    let a : Audit := ⟨package, package.scan fs dir, policy⟩
    let b : Audit := ⟨package, package.scan fs' dir, policy⟩
    List.Forall₂ (fun f g => f.same g = true) a.findings b.findings ∧
      printJson a.findings = printJson b.findings ∧ table a.findings = table b.findings := by
  intro a b
  have hrespelt : a.Respelt b :=
    ⟨rfl, rfl, Session.respelt_targets h Session.remembers_empty Session.remembers_empty _⟩
  have halike := hrespelt.findings
  exact ⟨halike.imp fun _ _ => Finding.Alike.same, printJson_eq_of_alike halike,
    table_eq_of_alike halike⟩

/-- A tree that two targets share, walked forwards. One of its files is listed under two
spellings, and one may not be read. -/
def forwards : FileSystem where
  list _ _ := [⟨"/p//A.swift"⟩, ⟨"/p/Locked.swift"⟩, ⟨"/p/A.swift"⟩, ⟨"/p/B.swift"⟩]
  read _ file :=
    if file.components = [.root, .name "p", .name "A.swift"] then .ok ["import Core", "import UI"]
    else if file.components = [.root, .name "p", .name "B.swift"] then .ok ["import Core"]
    else .error (.failed .permissionDenied)

/-- The same tree, walked backwards at every other listing. -/
def backwards : FileSystem where
  list n dir := if n % 2 = 0 then (forwards.list n dir).reverse else forwards.list n dir
  read := forwards.read

theorem report_sameTree_backwards :
    let package : Package :=
      ⟨"P", [{ name := "T", kind := .regular, path := some ⟨"/p"⟩ },
        { name := "U", kind := .test, path := some ⟨"/p"⟩ }]⟩
    let policy : Policy := { reexports := [⟨"UI", ["Core"]⟩] }
    let a : Audit := ⟨package, package.scan forwards ⟨"/p"⟩, policy⟩
    let b : Audit := ⟨package, package.scan backwards ⟨"/p"⟩, policy⟩
    forwards.SameTree backwards ∧ forwards.list 0 ⟨"/p"⟩ ≠ backwards.list 0 ⟨"/p"⟩ ∧
      List.Forall₂ (fun f g => f.same g = true) a.findings b.findings ∧
      printJson a.findings = printJson b.findings ∧ table a.findings = table b.findings := by
  intro package policy a b
  have htree : forwards.SameTree backwards := by
    refine ⟨?_, ?_⟩
    · intro n m p q hpq
      simp [forwards, backwards, Path.same_iff.1 hpq]
    · intro n m dir
      by_cases hm : m % 2 = 0
      · have hb : backwards.list m dir = (forwards.list n dir).reverse := if_pos hm
        rw [hb]
        exact (List.reverse_perm _).symm
      · have hb : backwards.list m dir = forwards.list n dir := if_neg hm
        rw [hb]
  exact ⟨htree, by decide, report_sameTree htree ⟨"/p"⟩ package policy⟩

end Report

end DependencyAudit
