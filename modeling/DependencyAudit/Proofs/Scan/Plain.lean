import DependencyAudit.Proofs.Scan.Memory
import Mathlib.Data.List.Perm.Basic

/-!
Scanning without a memory. A scan that reads every file as often as it is listed finds the same
imports, whichever target filled the memory and however a file was spelt when it was read.
-/
namespace DependencyAudit

variable {fs fs' : FileSystem} {dir : Path} {p q : Path}

namespace FileSystem

/-- A file that can be read has the same lines under every spelling and at all times. -/
def ReadsAlike (fs : FileSystem) : Prop :=
  ∀ n m p q, p.same q → (fs.read n p).toOption = (fs.read m q).toOption

/-- Two file systems that hold the same files: what can be read in one of them has the same lines in
the other, under every spelling and at all times. -/
def SameFiles (fs fs' : FileSystem) : Prop :=
  ∀ n m p q, p.same q → (fs.read n p).toOption = (fs'.read m q).toOption

/-- A directory has the same files at all times. -/
def ListsAlike (fs : FileSystem) : Prop := ∀ n m dir, fs.list n dir = fs.list m dir

theorem SameFiles.readsAlike (h : fs.SameFiles fs') : fs.ReadsAlike := by
  intro n m p q hpq
  rw [h n 0 p q hpq, h m 0 q q (Path.same_refl q)]

theorem SameFiles.readsAlike' (h : fs.SameFiles fs') : fs'.ReadsAlike := by
  intro n m p q hpq
  rw [← h 0 n p p (Path.same_refl p), h 0 m p q hpq]

end FileSystem

namespace SourceImport

/-- What imports are compared by. -/
def key (i : SourceImport) : List Component × Nat × String × String :=
  (i.file.components, i.line, i.rawText, i.moduleName)

theorem same_iff_key {i j : SourceImport} : i.same j = true ↔ i.key = j.key := by
  simp [same, key, Path.same_iff, and_assoc]

theorem forall₂_same_iff {is js : List SourceImport} :
    List.Forall₂ (fun i j => i.same j = true) is js ↔ is.map key = js.map key := by
  simp only [same_iff_key]
  rw [← List.forall₂_eq_eq_eq, List.forall₂_map_left_iff, List.forall₂_map_right_iff]

/-- The imports that lines declare, the first of the lines having the number `n`. -/
def declared (file : Path) (n : Nat) : List String → List SourceImport
  | [] => []
  | rawText :: lines =>
    match ImportLine.module? rawText with
    | some moduleName => ⟨file, n, rawText, moduleName⟩ :: declared file (n + 1) lines
    | none => declared file (n + 1) lines

theorem filterMap_zipIdx_eq_declared (file : Path) (n : Nat) (lines : List String) :
    ((lines.zipIdx n).filterMap fun (rawText, line) => ofLine? file rawText line) =
      declared file n lines := by
  induction lines generalizing n with
  | nil => rfl
  | cons rawText lines ih =>
    rw [List.zipIdx_cons, List.filterMap_cons, declared, ih]
    cases hm : ImportLine.module? rawText <;> simp [ofLine?, hm]

theorem ofLines_eq_declared (file : Path) (lines : List String) :
    ofLines file lines = declared file 1 lines :=
  filterMap_zipIdx_eq_declared file 1 lines

theorem map_key_declared (h : p.same q) (n : Nat) (lines : List String) :
    (declared p n lines).map key = (declared q n lines).map key := by
  induction lines generalizing n with
  | nil => rfl
  | cons rawText lines ih =>
    rw [declared, declared]
    cases ImportLine.module? rawText with
    | none => exact ih (n + 1)
    | some moduleName => simp [key, Path.same_iff.1 h, ih (n + 1)]

end SourceImport

namespace FileSystem

/-- The imports of a file, read for this one question. -/
def plain (fs : FileSystem) (file : Path) : List SourceImport :=
  match fs.read 0 file with
  | .ok lines => SourceImport.declared file 1 lines
  | .error _ => []

theorem plain_of_toOption {o : Option (List String)} (h : (fs.read 0 p).toOption = o) :
    fs.plain p = (o.map (SourceImport.declared p 1)).getD [] := by
  subst h
  rw [plain]
  cases fs.read 0 p <;> rfl

theorem SameFiles.plain_eq (h : fs.SameFiles fs') (file : Path) : fs.plain file = fs'.plain file := by
  rw [plain_of_toOption rfl, plain_of_toOption (h 0 0 file file (Path.same_refl file)).symm]

theorem ReadsAlike.plain_of_ok (hr : fs.ReadsAlike) {n : Nat} {lines : List String}
    (h : fs.read n p = .ok lines) (hpq : p.same q) :
    fs.plain q = SourceImport.declared q 1 lines := by
  have hq : (fs.read 0 q).toOption = some lines := by
    rw [← hr n 0 p q hpq, h]
    rfl
  rw [plain_of_toOption hq]
  rfl

theorem ReadsAlike.plain_of_error (hr : fs.ReadsAlike) {n : Nat} {error : ReadError}
    (h : fs.read n p = .error error) : fs.plain p = [] := by
  have hp : (fs.read 0 p).toOption = none := by
    rw [← hr n 0 p p (Path.same_refl p), h]
    rfl
  rw [plain_of_toOption hp]
  rfl

theorem ReadsAlike.map_key_plain (hr : fs.ReadsAlike) (h : p.same q) :
    (fs.plain p).map SourceImport.key = (fs.plain q).map SourceImport.key := by
  rw [plain_of_toOption rfl, plain_of_toOption (hr 0 0 p q h).symm]
  cases (fs.read 0 p).toOption with
  | none => rfl
  | some lines => exact SourceImport.map_key_declared h 1 lines

/-- The spellings under which files are listed do not matter. -/
theorem ReadsAlike.map_key_flatMap (hr : fs.ReadsAlike) {ps qs : List Path}
    (h : List.Forall₂ (fun p q => p.same q = true) ps qs) :
    (ps.flatMap fs.plain).map SourceImport.key = (qs.flatMap fs.plain).map SourceImport.key := by
  induction h with
  | nil => rfl
  | cons hpq _ ih => simp [hr.map_key_plain hpq, ih]

end FileSystem

namespace Session

variable {s : Session}

theorem map_key_file (hr : fs.ReadsAlike) (hs : Remembers fs s) (p : Path) :
    (s.file fs p).2.map SourceImport.key = (fs.plain p).map SourceImport.key := by
  obtain ⟨found, hc, hf⟩ | ⟨lines, _, hread, hf⟩ | ⟨error, _, hread, hf⟩ := file_cases fs s p
  · obtain ⟨n, first, lines, hp, hread, rfl⟩ := hs p found hc
    rw [hf, hr.plain_of_ok hread hp, SourceImport.ofLines_eq_declared]
    exact SourceImport.map_key_declared hp 1 lines
  · rw [hf, hr.plain_of_ok hread (Path.same_refl p), SourceImport.ofLines_eq_declared]
  · rw [hf, hr.plain_of_error hread]

theorem map_key_files (hr : fs.ReadsAlike) (hs : Remembers fs s) (ps : List Path) :
    (s.files fs ps).2.map SourceImport.key = (ps.flatMap fs.plain).map SourceImport.key := by
  induction ps generalizing s with
  | nil => rfl
  | cons p ps ih =>
    rw [files_cons, List.flatMap_cons, List.map_append, List.map_append, map_key_file hr hs p,
      ih (remembers_file hs p)]

end Session

end DependencyAudit
