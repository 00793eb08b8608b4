import DependencyAudit.Proofs.Scan.Plain
import Mathlib.Data.List.Perm.Basic

/-!
Entries of a scan. Every target has an entry in its place, and what stands there is what a plain
scan of the target finds, so that entries move with their targets.
-/
namespace DependencyAudit

variable {fs : FileSystem} {dir : Path}

namespace TargetImports

/-- Entries of the same target that hold the same imports. -/
structure Same (a b : TargetImports) : Prop where
  target : a.target = b.target
  kind : a.kind = b.kind
  imports : List.Forall₂ (fun i j => i.same j = true) a.imports b.imports

/-- What entries are compared by. -/
def key (t : TargetImports) : String × TargetKind × List (List Component × Nat × String × String) :=
  (t.target, t.kind, t.imports.map SourceImport.key)

theorem same_iff_key {a b : TargetImports} : a.Same b ↔ a.key = b.key := by
  simp only [key, Prod.mk.injEq, ← SourceImport.forall₂_same_iff]
  exact ⟨fun h => ⟨h.target, h.kind, h.imports⟩, fun h => ⟨h.1, h.2.1, h.2.2⟩⟩

end TargetImports

/-- The listed files that belong to a target, each as often as it is listed, put in order. -/
structure Target.Arranges (t : Target) (listed files : List Path) : Prop where
  perm : files.Perm (listed.filter fun file => file.isSource && !t.excludes file)
  ordered : files.Pairwise fun p q => (p.order q).isLE

theorem Target.arranges_sources (t : Target) (listed : List Path) :
    t.Arranges listed (t.sources listed) where
  perm := by
    refine (List.mergeSort_perm _ _).trans (List.Perm.of_eq (List.filter_congr ?_))
    intro file _
    cases hs : file.isSource <;> cases he : t.excludes file <;> simp [objection?, hs, he]
  ordered := Path.pairwise_mergeSort _

namespace Session

variable {s : Session}

/-- The entry of a target does not depend on what was remembered when its turn came. -/
theorem map_key_target (hr : fs.ReadsAlike) (hs : Remembers fs s) {t : Target} {files : List Path}
    (h : t.Arranges (s.listing fs dir t) files) :
    (s.target fs dir t).2.imports.map SourceImport.key =
      (files.flatMap fs.plain).map SourceImport.key := by
  have hsame : List.Forall₂ (fun p q => p.same q = true)
      (t.sources (s.listing fs dir t)) files := by
    have ha := t.arranges_sources (s.listing fs dir t)
    exact Path.forall₂_same_of_perm (ha.perm.trans h.perm.symm) ha.ordered h.ordered
  rw [target_eq, ← hr.map_key_flatMap hsame]
  exact map_key_files hr (kept_remembers.list s _ hs) _

/-- The entry that a scan of nothing but this target makes, file by file. -/
def plainEntry (fs : FileSystem) (dir : Path) (t : Target) : TargetImports where
  target := t.name
  kind := t.kind
  imports := (t.sources (fs.list 0 (t.sourceDirectory dir))).flatMap fs.plain

theorem map_key_targets (hr : fs.ReadsAlike) (hl : fs.ListsAlike) (hs : Remembers fs s)
    (ts : List Target) :
    (s.targets fs dir ts).2.map TargetImports.key =
      ts.map fun t => (plainEntry fs dir t).key := by
  induction ts generalizing s with
  | nil => rfl
  | cons t ts ih =>
    have hlist : s.listing fs dir t = fs.list 0 (t.sourceDirectory dir) := hl s.clock 0 _
    have hkey : (s.target fs dir t).2.key = (plainEntry fs dir t).key := by
      have hi := map_key_target hr hs (t.arranges_sources (s.listing fs dir t))
      rw [hlist] at hi
      simp only [TargetImports.key, plainEntry, hi]
      rfl
    rw [targets_cons, List.map_cons, List.map_cons, hkey, ih (kept_remembers.target hs t)]

end Session

namespace Package

/-- The files that a scan is given for a target after the targets before it. -/
def listing (fs : FileSystem) (dir : Path) (before : List Target) (t : Target) : List Path :=
  (Session.targets fs dir {} before).1.listing fs dir t

theorem scan_targets (p : Package) :
    (p.scan fs dir).targets = (Session.targets fs dir {} p.targets).2 := rfl

/-- Targets stand beside the entries that plain scans of them make. -/
theorem map_key_zip_scan (hr : fs.ReadsAlike) (hl : fs.ListsAlike) (p : Package) :
    (p.targets.zip (p.scan fs dir).targets).map (Prod.map id TargetImports.key) =
      p.targets.map fun t => (t, (Session.plainEntry fs dir t).key) := by
  have hz := List.zip_map' (l := p.targets) (f := id)
    (g := fun t => (Session.plainEntry fs dir t).key)
  rw [List.map_id] at hz
  rw [← List.zip_map_right, scan_targets, Session.map_key_targets hr hl Session.remembers_empty]
  exact hz

/-- Targets declared in another order stand beside entries like those they stood beside before. -/
theorem exists_moved (hr : fs.ReadsAlike) (hl : fs.ListsAlike) {p q : Package}
    (hq : q.targets.Perm p.targets) :
    ∃ moved, moved.Perm (p.targets.zip (p.scan fs dir).targets) ∧
      List.Forall₂ (fun a b => a.1 = b.1 ∧ a.2.Same b.2) moved
        (q.targets.zip (q.scan fs dir).targets) := by
  have hkeys := hq.map fun t => (t, (Session.plainEntry fs dir t).key)
  rw [← map_key_zip_scan hr hl q, ← map_key_zip_scan hr hl p] at hkeys
  have hcomp := List.eq_map_comp_perm (Prod.map (id : Target → Target) TargetImports.key)
  obtain ⟨moved, heq, hperm⟩ := (congrFun₂ hcomp _ _).mpr hkeys
  refine ⟨moved, hperm, ?_⟩
  rw [← List.forall₂_eq_eq_eq, List.forall₂_map_left_iff, List.forall₂_map_right_iff] at heq
  refine List.Forall₂.flip (heq.imp ?_)
  intro a b hab
  obtain ⟨ht, hk⟩ := Prod.mk.inj hab
  exact ⟨ht.symm, TargetImports.same_iff_key.2 hk.symm⟩

end Package

/-- A scan that remembers finds in every target what plain readings of its files find: of the files
listed when its turn came those that belong to it, in the order of paths and as often as they are
listed. Where listings never change, targets declared in another order keep their entries. -/
theorem scan_plain (hr : fs.ReadsAlike) (dir : Path) (p : Package) :
    (p.scan fs dir).targets.length = p.targets.length ∧
    (∀ before t after, p.targets = before ++ t :: after →
      ∃ entry, (p.scan fs dir).targets[before.length]? = some entry ∧
        entry.target = t.name ∧ entry.kind = t.kind ∧
        (∃ files, t.Arranges (Package.listing fs dir before t) files) ∧
        ∀ files, t.Arranges (Package.listing fs dir before t) files →
          List.Forall₂ (fun i j => i.same j = true) entry.imports (files.flatMap fs.plain)) ∧
    (fs.ListsAlike → ∀ q : Package, q.targets.Perm p.targets →
      ∃ moved, moved.Perm (p.targets.zip (p.scan fs dir).targets) ∧
        List.Forall₂ (fun a b => a.1 = b.1 ∧ a.2.Same b.2) moved
          (q.targets.zip (q.scan fs dir).targets)) := by
  refine ⟨Session.length_targets {} p.targets, ?_, ?_⟩
  · intro before t after ht
    have hs : Session.Remembers fs (Session.targets fs dir {} before).1 :=
      Session.kept_remembers.targets Session.remembers_empty before
    refine ⟨((Session.targets fs dir {} before).1.target fs dir t).2, ?_, rfl, rfl,
      ⟨_, t.arranges_sources _⟩, ?_⟩
    · have hlen : (Session.targets fs dir {} before).2.length = before.length :=
        Session.length_targets {} before
      rw [Package.scan_targets, ht, Session.targets_append, Session.targets_cons, ← hlen]
      simp
    · intro files hf
      exact SourceImport.forall₂_same_iff.2 (Session.map_key_target hr hs hf)
  · intro hl q hq
    exact Package.exists_moved hr hl hq

/-- Every directory lists a shared file under two spellings, a file that is no source, and one that
nobody may read. -/
def sharedDisk : FileSystem where
  list _ _ := [⟨"/p//Util.swift"⟩, ⟨"/p/README.md"⟩, ⟨"/p/Util.swift"⟩, ⟨"/p/Locked.swift"⟩]
  read _ file :=
    if file.components = [.root, .name "p", .name "Util.swift"] then
      .ok ["import Core", "let x = 1"]
    else .error (.failed .permissionDenied)

def firstSharing : Target := { name := "A", kind := .regular }

def secondSharing : Target := { name := "B", kind := .test }

theorem sharedDisk_readsAlike : sharedDisk.ReadsAlike := by
  intro n m p q h
  simp [sharedDisk, Path.same_iff.1 h]

/-- The second target finds what it would find alone, though the first has read the file for it, and
so it does when it comes first. -/
theorem scan_plain_shared :
    sharedDisk.ReadsAlike ∧ sharedDisk.ListsAlike ∧
      (∃ entry,
        (Package.scan ⟨"P", [firstSharing, secondSharing]⟩ sharedDisk ⟨"/p"⟩).targets[1]? =
          some entry ∧
        entry.target = "B" ∧
        List.Forall₂ (fun i j => i.same j = true) entry.imports
          [⟨⟨"/p//Util.swift"⟩, 1, "import Core", "Core"⟩,
           ⟨⟨"/p/Util.swift"⟩, 1, "import Core", "Core"⟩]) ∧
      ∃ moved, moved.Perm ([firstSharing, secondSharing].zip
          (Package.scan ⟨"P", [firstSharing, secondSharing]⟩ sharedDisk ⟨"/p"⟩).targets) ∧
        List.Forall₂ (fun a b => a.1 = b.1 ∧ a.2.Same b.2) moved
          ([secondSharing, firstSharing].zip
            (Package.scan ⟨"P", [secondSharing, firstSharing]⟩ sharedDisk ⟨"/p"⟩).targets) := by
  have hl : sharedDisk.ListsAlike := fun _ _ _ => rfl
  refine ⟨sharedDisk_readsAlike, hl, ?_⟩
  obtain ⟨_, hentries, hmoved⟩ :=
    scan_plain sharedDisk_readsAlike ⟨"/p"⟩ ⟨"P", [firstSharing, secondSharing]⟩
  refine ⟨?_, hmoved hl ⟨"P", [secondSharing, firstSharing]⟩ (List.Perm.swap _ _ _)⟩
  obtain ⟨entry, hget, ht, _, _, hi⟩ := hentries [firstSharing] secondSharing [] rfl
  have ha : secondSharing.Arranges
      (Package.listing sharedDisk ⟨"/p"⟩ [firstSharing] secondSharing)
      [⟨"/p/Locked.swift"⟩, ⟨"/p//Util.swift"⟩, ⟨"/p/Util.swift"⟩] := by
    refine ⟨?_, by decide⟩
    change List.Perm _ (List.filter _ (sharedDisk.list 0 ⟨"/p"⟩))
    decide
  have hp : [⟨"/p/Locked.swift"⟩, ⟨"/p//Util.swift"⟩, ⟨"/p/Util.swift"⟩].flatMap sharedDisk.plain =
      [⟨⟨"/p//Util.swift"⟩, 1, "import Core", "Core"⟩,
       ⟨⟨"/p/Util.swift"⟩, 1, "import Core", "Core"⟩] := by decide +kernel
  rw [← hp]
  exact ⟨entry, hget, ht, hi _ ha⟩

end DependencyAudit
