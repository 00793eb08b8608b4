import DependencyAudit.CommandLine.Run
import DependencyAudit.Proofs.FileTree
import DependencyAudit.Proofs.Report.Records
import Mathlib.Data.List.Permutation

/-!
What the exit status tells. The two greatest ones say that there is no package and that its manifest
is not known, all others are numbers of findings, and the findings are what was printed. The only run
that ends otherwise is one that was asked for a sample policy and cannot write it.
-/
namespace DependencyAudit.CommandLine

variable {s : Setting} {o : Options} {args : List String}

/-- The directory of the package that is checked. -/
def packageDir (s : Setting) (o : Options) : Path := o.manifestDir.getD s.directory.path

/-- The file that makes it a package is there. -/
def HasPackage (s : Setting) (o : Options) : Prop :=
  s.tree.isFile s.directory ((packageDir s o).join ⟨"Package.swift"⟩) = true

/-- A sample policy is to be written into the package, and cannot be. -/
def SampleLost (s : Setting) (o : Options) : Prop :=
  HasPackage s o ∧ o.writeSample = true ∧
    ∃ cause, s.tree.write s.directory ((packageDir s o).join Policy.fileName)
      Policy.sample.encode.toUTF8 = .error cause

/-- The tree that is checked: with the sample policy, if one was asked for and could be written. -/
def checkedTree (s : Setting) (o : Options) : FileTree :=
  match prepare s o (packageDir s o) with
  | .ok tree => tree
  | .error _ => s.tree

/-- The policy that is found for the package. -/
def checkedPolicy (s : Setting) (o : Options) : Policy :=
  policyFor (checkedTree s o) s.directory o (packageDir s o)

/-- The package, if its manifest can be obtained and decoded. -/
def manifest (s : Setting) (o : Options) : Except ManifestError Package :=
  Manifest.obtain (checkedTree s o) s.directory (packageDir s o) (checkedPolicy s o).tool

/-- The check of the package. -/
def check (s : Setting) (o : Options) (package : Package) : Audit where
  package
  scan := package.scan ((checkedTree s o).fileSystem s.directory) (packageDir s o)
  policy := checkedPolicy s o

/-- What the check comes to. -/
def checked (s : Setting) (o : Options) (package : Package) : AuditResult where
  findings := (check s o package).findings
  targets := package.targets.length
  imports := (check s o package).scan.count

/-- The exit status of a run tells how it ended: without a package, without its manifest, or with so
many findings, all of which were printed. -/
structure Result.Tells (r : Result) (s : Setting) (o : Options) : Prop where
  bounded : r.status ≤ 255
  notFound : r.status = 255 ↔ ¬ HasPackage s o
  unreadable : r.status = 254 ↔ HasPackage s o ∧ ∃ error, manifest s o = .error error
  completed : r.status ≤ 253 → ∃ package, manifest s o = .ok package ∧
    r.status = min (check s o package).findings.length 253 ∧
    r.stdout = output s.colour (o.format.getD .table) (checked s o package) ∧
    (o.format = some .json → ∀ elapsed,
      Json.Spells (.array ((check s o package).findings.map Report.record))
        (r.stdout elapsed).toList)

theorem run_eq (h : Request.ofArguments args = .run o) : run s args = runWith s o := by
  rw [run, h]

theorem prepare_of_writeSample (hw : o.writeSample = true) (dir : Path) :
    prepare s o dir =
      (s.tree.write s.directory (dir.join Policy.fileName) Policy.sample.encode.toUTF8).mapError
        (.unwritable (dir.join Policy.fileName)) := by
  rw [prepare, if_pos hw]
  delta Policy.writeSample
  dsimp only
  cases s.tree.write s.directory (dir.join Policy.fileName) Policy.sample.encode.toUTF8 <;> rfl

/-- The sample policy is not asked for, or it is written, or it is lost. -/
theorem prepare_cases (hp : HasPackage s o) :
    (¬ SampleLost s o ∧ prepare s o (packageDir s o) = .ok (checkedTree s o)) ∨
    (SampleLost s o ∧ checkedTree s o = s.tree ∧
      ∃ error, prepare s o (packageDir s o) = .error error) := by
  cases hw : o.writeSample with
  | false =>
    have hprepare : prepare s o (packageDir s o) = .ok s.tree := by simp [prepare, hw]
    refine Or.inl ⟨fun h => ?_, by rw [checkedTree, hprepare]⟩
    rw [h.2.1] at hw
    exact Bool.noConfusion hw
  | true =>
    have hprepare := prepare_of_writeSample (s := s) hw (packageDir s o)
    cases hwrite : s.tree.write s.directory ((packageDir s o).join Policy.fileName)
        Policy.sample.encode.toUTF8 with
    | ok tree =>
      rw [hwrite, Except.mapError] at hprepare
      refine Or.inl ⟨?_, by rw [checkedTree, hprepare]⟩
      rintro ⟨_, _, cause, hcause⟩
      rw [hwrite] at hcause
      cases hcause
    | error cause =>
      rw [hwrite, Except.mapError] at hprepare
      exact Or.inr ⟨⟨hp, hw, cause, hwrite⟩, by rw [checkedTree, hprepare], _, hprepare⟩

theorem audit_eq (t : FileTree) (directory : Location) (dir : Path) (policy : Policy) :
    audit t directory dir policy = (Manifest.obtain t directory dir policy.tool).map fun package =>
      let a : Audit := ⟨package, package.scan (t.fileSystem directory) dir, policy⟩
      ⟨a.findings, package.targets.length, a.scan.count⟩ := by
  rw [audit]
  cases Manifest.obtain t directory dir policy.tool <;> rfl

theorem runWith_of_absent (hp : ¬ HasPackage s o) :
    runWith s o =
      { status := 255
        complaint := "No " ++ Package.fileName.text ++ " found in " ++ (packageDir s o).text
        tree := s.tree } := by
  have hlocate : locateManifest s.tree s.directory (packageDir s o) =
      .error .manifestNotFound := if_neg hp
  rw [packageDir] at hlocate
  delta runWith
  dsimp only
  rw [hlocate]
  rfl

theorem locateManifest_of_hasPackage (hp : HasPackage s o) :
    locateManifest s.tree s.directory (packageDir s o) =
      .ok ((packageDir s o).join Package.fileName) := if_pos hp

theorem runWith_of_sampleLost (h : SampleLost s o) :
    checkedTree s o = s.tree ∧ ∃ error : PolicyError,
      runWith s o = { status := 1, complaint := error.message, tree := s.tree } := by
  rcases prepare_cases h.1 with ⟨hlost, _⟩ | ⟨_, htree, error, hprepare⟩
  · exact (hlost h).elim
  · have hlocate := locateManifest_of_hasPackage h.1
    rw [packageDir] at hlocate hprepare
    refine ⟨htree, error, ?_⟩
    delta runWith
    dsimp only
    rw [hlocate]
    dsimp only
    rw [hprepare]
    rfl

theorem runWith_of_prepared (hp : HasPackage s o)
    (h : prepare s o (packageDir s o) = .ok (checkedTree s o)) :
    runWith s o =
      match manifest s o with
      | .error error => { status := 254, complaint := error.message, tree := checkedTree s o }
      | .ok package =>
        { status := min (check s o package).findings.length 253
          stdout := output s.colour (o.format.getD .table) (checked s o package)
          tree := checkedTree s o } := by
  have hlocate := locateManifest_of_hasPackage hp
  have haudit := audit_eq (checkedTree s o) s.directory (packageDir s o) (checkedPolicy s o)
  rw [checkedPolicy] at haudit
  rw [packageDir] at hlocate h haudit
  delta runWith
  dsimp only
  rw [hlocate]
  dsimp only
  rw [h]
  dsimp only
  rw [haudit, manifest, checkedPolicy, packageDir]
  cases Manifest.obtain (checkedTree s o) s.directory (o.manifestDir.getD s.directory.path)
    (policyFor (checkedTree s o) s.directory o (o.manifestDir.getD s.directory.path)).tool <;> rfl

/-- The four ways in which a run ends. -/
theorem runWith_cases (s : Setting) (o : Options) :
    (¬ HasPackage s o ∧ (runWith s o).status = 255) ∨
    (SampleLost s o ∧ (runWith s o).status = 1 ∧ (runWith s o).stdout = (fun _ => "") ∧
      (runWith s o).tree = s.tree) ∨
    (HasPackage s o ∧ ¬ SampleLost s o ∧ (∃ error, manifest s o = .error error) ∧
      (runWith s o).status = 254) ∨
    (HasPackage s o ∧ ¬ SampleLost s o ∧ ∃ package, manifest s o = .ok package ∧
      (runWith s o).status = min (check s o package).findings.length 253 ∧
      (runWith s o).stdout = output s.colour (o.format.getD .table) (checked s o package)) := by
  by_cases hp : HasPackage s o
  · right
    rcases prepare_cases hp with ⟨hlost, hprepare⟩ | ⟨hlost, _⟩
    · right
      rw [runWith_of_prepared hp hprepare]
      cases hm : manifest s o with
      | error error => exact Or.inl ⟨hp, hlost, ⟨error, rfl⟩, rfl⟩
      | ok package => exact Or.inr ⟨hp, hlost, package, rfl, rfl, rfl⟩
    · obtain ⟨_, error, hr⟩ := runWith_of_sampleLost hlost
      rw [hr]
      exact Or.inl ⟨hlost, rfl, rfl, rfl⟩
  · rw [runWith_of_absent hp]
    exact Or.inl ⟨hp, rfl⟩

theorem mem_output (colour : Bool) (format : Format) (r : AuditResult) (elapsed : String) :
    '\n' ∈ (output colour format r elapsed).toList := by
  cases format with
  | json => simp [output, Report.toList_printJson]
  | table => simp [output, closing]

/-- A run that checked a package has printed something. -/
theorem not_tells_of_silent {r : Result} (hstatus : r.status ≤ 253)
    (hstdout : r.stdout = fun _ => "") : ¬ r.Tells s o := by
  intro htells
  obtain ⟨package, _, _, hprinted, _⟩ := htells.completed hstatus
  have hmem := mem_output s.colour (o.format.getD .table) (checked s o package) ""
  rw [← hprinted, hstdout] at hmem
  simp at hmem

theorem tells_of_absent {r : Result} (hp : ¬ HasPackage s o) (hstatus : r.status = 255) :
    r.Tells s o where
  bounded := hstatus.le
  notFound := iff_of_true hstatus hp
  unreadable := iff_of_false (by omega) fun h => hp h.1
  completed := by omega

theorem tells_of_unreadable {r : Result} (hp : HasPackage s o)
    (hmanifest : ∃ error, manifest s o = .error error) (hstatus : r.status = 254) :
    r.Tells s o where
  bounded := by omega
  notFound := iff_of_false (by omega) (not_not_intro hp)
  unreadable := iff_of_true hstatus ⟨hp, hmanifest⟩
  completed := by omega

theorem tells_of_checked {r : Result} {package : Package} (hp : HasPackage s o)
    (hmanifest : manifest s o = .ok package)
    (hstatus : r.status = min (check s o package).findings.length 253)
    (hstdout : r.stdout = output s.colour (o.format.getD .table) (checked s o package)) :
    r.Tells s o where
  bounded := by omega
  notFound := iff_of_false (by omega) (not_not_intro hp)
  unreadable := by
    refine iff_of_false (by omega) ?_
    rintro ⟨_, error, herror⟩
    rw [hmanifest] at herror
    cases herror
  completed := by
    intro _
    refine ⟨package, hmanifest, hstatus, hstdout, fun hformat elapsed => ?_⟩
    rw [hstdout, hformat]
    exact Report.spells_printJson _

/-- A run without a lost sample policy tells how it ended; one with it does not, as it ends with the
status of a single finding, and has printed nothing and changed nothing. -/
theorem tells_iff (h : Request.ofArguments args = .run o) (s : Setting) :
    ((run s args).Tells s o ↔ ¬ SampleLost s o) ∧
    (SampleLost s o → (run s args).status = 1 ∧ (run s args).stdout = (fun _ => "") ∧
      (run s args).tree = s.tree) := by
  rw [run_eq h]
  rcases runWith_cases s o with ⟨hp, hstatus⟩ | ⟨hlost, hstatus, hstdout, htree⟩ |
    ⟨hp, hlost, hmanifest, hstatus⟩ | ⟨hp, hlost, package, hmanifest, hstatus, hstdout⟩
  · have hlost : ¬ SampleLost s o := fun hlost => hp hlost.1
    exact ⟨iff_of_true (tells_of_absent hp hstatus) hlost, fun h => (hlost h).elim⟩
  · exact ⟨iff_of_false (not_tells_of_silent (by omega) hstdout) (not_not_intro hlost),
      fun _ => ⟨hstatus, hstdout, htree⟩⟩
  · exact ⟨iff_of_true (tells_of_unreadable hp hmanifest hstatus) hlost,
      fun h => (hlost h).elim⟩
  · exact ⟨iff_of_true (tells_of_checked hp hmanifest hstatus hstdout) hlost,
      fun h => (hlost h).elim⟩

def toolPolicy : String := "\x7b\"swiftExecPath\": \"/r/swift\"\x7d"

def emptyManifest : String := "\x7b\"name\": \"P\", \"targets\": []\x7d"

/-- A package without targets, with a directory where its policy file would be. Its program is named
by the policy of the directory above. -/
def obstructed : Setting where
  tree := ⟨[(["r"], .directory),
    (["r", "swift"], .program .empty fun _ => .ok ⟨emptyManifest.toUTF8, .empty, .exited 0⟩),
    (["r", ".spmlint.json"], .file toolPolicy.toUTF8),
    (["r", "pkg"], .directory),
    (["r", "pkg", "Package.swift"], .file .empty),
    (["r", "pkg", ".spmlint.json"], .directory)]⟩
  directory := ["r"]
  colour := false

theorem load_obstructed :
    (Policy.load obstructed.tree obstructed.directory
      (Policy.candidates ⟨"pkg"⟩ obstructed.directory.path)).1 = { tool := ⟨"/r/swift"⟩ } := by
  have hcandidates : Policy.candidates ⟨"pkg"⟩ obstructed.directory.path =
      [⟨"pkg/.spmlint.json"⟩, ⟨"/r/.spmlint.json"⟩] := rfl
  have hown : obstructed.tree.isFile obstructed.directory ⟨"pkg/.spmlint.json"⟩ = false := by
    decide +kernel
  have hother : obstructed.tree.isFile obstructed.directory ⟨"/r/.spmlint.json"⟩ = true := by
    decide +kernel
  have htext : obstructed.tree.text obstructed.directory ⟨"/r/.spmlint.json"⟩ = .ok toolPolicy :=
    FileTree.text_of_find rfl
  have hdecode : Policy.decode toolPolicy = .ok { tool := ⟨"/r/swift"⟩ } := by cbv
  rw [hcandidates, Policy.load, hown, if_neg Bool.false_ne_true, Policy.load, hother, if_pos rfl,
    Policy.ofFile, htext]
  dsimp only
  rw [hdecode]
  rfl

theorem obtain_obstructed :
    Manifest.obtain obstructed.tree obstructed.directory ⟨"pkg"⟩ ⟨"/r/swift"⟩ = .ok ⟨"P", []⟩ := by
  have hcall : obstructed.tree.call obstructed.directory ⟨"pkg"⟩ ⟨"/r/swift"⟩ =
      .ok ⟨emptyManifest.toUTF8, .empty, .exited 0⟩ := rfl
  have hdecode : Manifest.decode emptyManifest = .ok ⟨"P", []⟩ := by cbv
  have hsilent : (Text.trim emptyManifest.toList).isEmpty = false := by cbv
  rw [Manifest.obtain, hcall]
  dsimp only
  rw [Manifest.ofResponse]
  dsimp only
  rw [if_neg (by decide), Text.ofBytes?_toUTF8]
  dsimp only
  rw [hsilent, if_neg Bool.false_ne_true, hdecode]
  rfl

theorem manifest_obstructed {o : Options} (hdir : o.manifestDir = some ⟨"pkg"⟩)
    (htree : checkedTree obstructed o = obstructed.tree) :
    manifest obstructed o = .ok ⟨"P", []⟩ := by
  have hpackageDir : packageDir obstructed o = ⟨"pkg"⟩ := by rw [packageDir, hdir]; rfl
  have htool : (checkedPolicy obstructed o).tool = ⟨"/r/swift"⟩ := by
    rw [checkedPolicy, htree, policyFor, hpackageDir]
    dsimp only
    rw [load_obstructed]
  rw [manifest, htree, hpackageDir, htool, obtain_obstructed]

theorem hasPackage_obstructed {o : Options} (hdir : o.manifestDir = some ⟨"pkg"⟩) :
    HasPackage obstructed o := by
  rw [HasPackage, packageDir, hdir]
  decide +kernel

theorem findings_obstructed (o : Options) : (check obstructed o ⟨"P", []⟩).findings = [] := rfl

theorem sampleLost_obstructed {o : Options} (hdir : o.manifestDir = some ⟨"pkg"⟩)
    (hw : o.writeSample = true) : SampleLost obstructed o := by
  have hwrite (content : ByteArray) :
      obstructed.tree.write obstructed.directory ((⟨"pkg"⟩ : Path).join Policy.fileName) content =
        .error .isDirectory := rfl
  refine ⟨hasPackage_obstructed hdir, hw, .isDirectory, ?_⟩
  rw [packageDir, hdir]
  exact hwrite _

theorem tells_obstructed :
    let o : Options := { manifestDir := some ⟨"pkg"⟩, format := some .json }
    let r := run obstructed ["-p", "pkg", "-o", "json"]
    Request.ofArguments ["-p", "pkg", "-o", "json"] = .run o ∧ ¬ SampleLost obstructed o ∧
    r.Tells obstructed o ∧ r.status = 0 := by
  intro o r
  have hargs : Request.ofArguments ["-p", "pkg", "-o", "json"] = .run o := by decide
  have hp : HasPackage obstructed o := hasPackage_obstructed rfl
  have hlost : ¬ SampleLost obstructed o := fun h => Bool.false_ne_true h.2.1
  have htells : r.Tells obstructed o := (tells_iff hargs obstructed).1.mpr hlost
  have hmanifest : manifest obstructed o = .ok ⟨"P", []⟩ := manifest_obstructed rfl rfl
  have hfound : r.status ≠ 255 := fun h => htells.notFound.mp h hp
  have hknown : r.status ≠ 254 := by
    intro h
    obtain ⟨_, error, herror⟩ := htells.unreadable.mp h
    rw [hmanifest] at herror
    cases herror
  obtain ⟨package, hpackage, hstatus, _⟩ :=
    htells.completed (by have := htells.bounded; omega)
  rw [hmanifest] at hpackage
  cases hpackage
  exact ⟨hargs, hlost, htells, hstatus⟩

/-- A run without findings that ends with the status of one finding. -/
theorem not_tells_obstructed :
    let o : Options := { manifestDir := some ⟨"pkg"⟩, format := some .json, writeSample := true }
    let r := run obstructed ["-p", "pkg", "-o", "json", "-w"]
    Request.ofArguments ["-p", "pkg", "-o", "json", "-w"] = .run o ∧
    manifest obstructed o = .ok ⟨"P", []⟩ ∧ (check obstructed o ⟨"P", []⟩).findings = [] ∧
    r.status = 1 ∧ r.stdout = (fun _ => "") ∧ ¬ r.Tells obstructed o := by
  intro o r
  have hargs : Request.ofArguments ["-p", "pkg", "-o", "json", "-w"] = .run o := by decide
  have hlost : SampleLost obstructed o := sampleLost_obstructed rfl rfl
  obtain ⟨htree, error, hr⟩ := runWith_of_sampleLost hlost
  rw [← run_eq hargs] at hr
  have hstatus : r.status = 1 := congrArg Result.status hr
  have hstdout : r.stdout = fun _ => "" := congrArg Result.stdout hr
  exact ⟨hargs, manifest_obstructed rfl htree, findings_obstructed o, hstatus, hstdout,
    not_tells_of_silent (by omega) hstdout⟩

end DependencyAudit.CommandLine
