import DependencyAudit.Proofs.PathJoin
import DependencyAudit.Proofs.Scan.Account

/-!
Packages in other places. Which of the listed files are sources of a target, and in which order they
come, depends on the directory of the package only through the fragments that the target excludes,
since these are looked for in the whole path of a file.
-/
namespace DependencyAudit

/-- A relative path that leads nowhere up. -/
structure Path.LeadsDown (p : Path) : Prop where
  relative : p.isAbsolute = false
  down : Component.parent ∉ p.components

/-- A relative path that names something else than the directory it is seen from. -/
structure Path.LeadsOn (p : Path) : Prop where
  relative : p.isAbsolute = false
  on : p.steps ≠ []

theorem Path.LeadsOn.isSource_join {base p : Path} (h : p.LeadsOn) (hb : base.text ≠ "") :
    (base.join p).isSource = p.isSource := by
  rw [isSource, isSource, extension?, extension?, fileName?_join hb h.relative h.on]

namespace Target

variable {t : Target} {dir file : Path}

/-- The source directory as seen from the directory of the package. -/
def place (t : Target) : Path :=
  match t.path with
  | some path => path
  | none => (⟨t.kind.sourceRoot⟩ : Path).join ⟨t.name⟩

/-- A file below the source directory as seen from the directory of the package. -/
def inPackage (t : Target) (file : Path) : Path := (Path.ofComponents t.place.steps).join file

/-- The path of the target leads down from the package, or its name does if it has no path. -/
structure Inside (t : Target) : Prop where
  path : ∀ p, t.path = some p → p.LeadsDown
  name : t.path = none → (⟨t.name⟩ : Path).LeadsDown

theorem sourceRoot_leadsDown (kind : TargetKind) :
    (⟨kind.sourceRoot⟩ : Path).LeadsDown ∧ (⟨kind.sourceRoot⟩ : Path).text ≠ "" := by
  cases kind <;> exact ⟨⟨by decide, by decide⟩, by decide⟩

theorem Inside.place (h : t.Inside) :
    t.place.isAbsolute = false ∧ Component.parent ∉ t.place.steps := by
  rw [Target.place]
  cases hp : t.path with
  | some path =>
    obtain ⟨hrelative, hdown⟩ := h.path path hp
    exact ⟨hrelative, fun hmem => hdown (Path.mem_components_of_mem_steps hrelative hmem)⟩
  | none =>
    obtain ⟨hrelative, hdown⟩ := h.name hp
    obtain ⟨hroot, hne⟩ := sourceRoot_leadsDown t.kind
    have hjoin := Path.isAbsolute_join hroot.relative hne hrelative
    refine ⟨hjoin, fun hmem => ?_⟩
    have hmem := Path.mem_components_of_mem_steps hjoin hmem
    rw [Path.components_join hne hrelative, List.mem_append] at hmem
    obtain hmem | hmem := hmem
    · exact hroot.down hmem
    · exact hdown (Path.mem_components_of_mem_steps hrelative hmem)

theorem Inside.sourceDirectory_eq (h : t.Inside) (dir : Path) :
    t.sourceDirectory dir = (dir.join t.place).clean := by
  rw [sourceDirectory, Target.place]
  cases hp : t.path with
  | some path => rfl
  | none =>
    obtain ⟨hroot, hne⟩ := sourceRoot_leadsDown t.kind
    dsimp only
    rw [Path.join_assoc hroot.relative hne (h.name hp).relative]

/-- A target stands at the same place of its package, wherever that is. -/
theorem Inside.join_sourceDirectory (h : t.Inside) (habsolute : dir.isAbsolute = true)
    (hclean : dir.clean = dir) (hf : file.isAbsolute = false) :
    (t.sourceDirectory dir).join file = dir.join (t.inPackage file) := by
  obtain ⟨hrelative, hparent⟩ := h.place
  rw [h.sourceDirectory_eq, Path.clean_join habsolute hclean hrelative hparent,
    (Path.through_join (Path.descending_steps hparent) hf).1]
  rfl

theorem Inside.isAbsolute_inPackage (h : t.Inside) (hf : file.isAbsolute = false) :
    (t.inPackage file).isAbsolute = false :=
  (@Path.through_join ⟨""⟩ file _ (Path.descending_steps h.place.2) hf).2

theorem objection?_isNone (t : Target) (file : Path) :
    (t.objection? file).isNone = (file.isSource && !t.excludes file) := by
  cases hs : file.isSource <;> cases he : t.excludes file <;> simp [objection?, hs, he]

theorem Inside.sourceDirectory_ne (h : t.Inside) (habsolute : dir.isAbsolute = true)
    (hclean : dir.clean = dir) : (t.sourceDirectory dir).text ≠ "" := by
  obtain ⟨hrelative, hparent⟩ := h.place
  have hdir : dir.text ≠ "" := by
    intro hempty
    simp [Path.isAbsolute, hempty] at habsolute
  rw [h.sourceDirectory_eq, Path.clean_join habsolute hclean hrelative hparent]
  exact (Path.components_through hdir (Path.descending_steps hparent)).2

end Target

/-- A place where the package of a target stands: an absolute and clean directory, in which the given
files are listed for the target, each of them below the source directory. -/
structure Checkout (t : Target) (files : List Path) where
  fs : FileSystem
  number : Nat
  dir : Path
  absolute : dir.isAbsolute = true
  clean : dir.clean = dir
  lists : fs.list number (t.sourceDirectory dir) = files.map (t.sourceDirectory dir).join

namespace Checkout

variable {t : Target} {files kept : List Path} {file p q : Path}

/-- The whole path of a file. -/
def full (c : Checkout t files) (file : Path) : Path := (t.sourceDirectory c.dir).join file

/-- The files that are collected for the target. -/
def sources (c : Checkout t files) : List Path :=
  t.sources (c.fs.list c.number (t.sourceDirectory c.dir))

/-- The files that belong to the target in this place. -/
def belongs (c : Checkout t files) (file : Path) : Bool :=
  file.isSource && !t.excludes (c.full file)

/-- The same files are collected in both places and in the same order. -/
def Alike (c₁ c₂ : Checkout t files) : Prop :=
  ∃ kept : List Path, (∀ file ∈ kept, file ∈ files) ∧ c₁.sources = kept.map c₁.full ∧
    c₂.sources = kept.map c₂.full

theorem Alike.sources_eq_nil {c₁ c₂ : Checkout t files} (h : c₁.Alike c₂)
    (hnil : c₁.sources = []) : c₂.sources = [] := by
  obtain ⟨kept, _, h₁, h₂⟩ := h
  rw [hnil, eq_comm, List.map_eq_nil_iff] at h₁
  rw [h₂, h₁, List.map_nil]

/-- What the target excludes is not found in the directory of the package, nor across the border
between that and what lies inside. -/
def ExcludesInside (c : Checkout t files) (file : Path) : Prop :=
  ∀ fragment ∈ t.exclude, (c.full file).mentions fragment = true →
    (t.inPackage file).mentions fragment = true

theorem full_eq (c : Checkout t files) (ht : t.Inside) (hf : file.isAbsolute = false) :
    c.full file = c.dir.join (t.inPackage file) :=
  ht.join_sourceDirectory c.absolute c.clean hf

theorem mem_map_full (c : Checkout t files) (hf : file.isAbsolute = false)
    (hkept : ∀ p ∈ kept, p.isAbsolute = false) : c.full file ∈ kept.map c.full ↔ file ∈ kept := by
  refine ⟨fun h => ?_, List.mem_map_of_mem⟩
  obtain ⟨p, hp, hfull⟩ := List.mem_map.1 h
  rwa [← Path.join_injective (hkept p hp) hf hfull]

/-- The order of the sources is that of what they add to the source directory. -/
theorem sources_eq (c : Checkout t files) (ht : t.Inside) (hf : ∀ file ∈ files, file.LeadsOn) :
    c.sources = ((files.mergeSort Path.stepsLE).filter c.belongs).map c.full := by
  have hne := ht.sourceDirectory_ne c.absolute c.clean
  have hkept : (files.map c.full).filter (fun file => (t.objection? file).isNone) =
      (files.filter c.belongs).map c.full := by
    rw [List.filter_map]
    refine congrArg (List.map c.full) (List.filter_congr fun file hmem => ?_)
    rw [Function.comp_apply, t.objection?_isNone, belongs, full, (hf file hmem).isSource_join hne]
  rw [filter_mergeSort Path.stepsLE_trans Path.stepsLE_total, sources, c.lists, Target.sources]
  change List.mergeSort (List.filter _ (files.map c.full)) _ = _
  rw [hkept, List.map_mergeSort]
  intro p hp q hq
  have hp := (hf p (List.mem_of_mem_filter hp)).relative
  have hq := (hf q (List.mem_of_mem_filter hq)).relative
  rw [full, full, Path.order_join hne hp hq]

theorem full_mem_sources (c : Checkout t files) (ht : t.Inside)
    (hf : ∀ file ∈ files, file.LeadsOn) (hmem : file ∈ files) :
    c.full file ∈ c.sources ↔ c.belongs file = true := by
  have hsorted : ∀ {p : Path}, p ∈ files.mergeSort Path.stepsLE ↔ p ∈ files :=
    (List.mergeSort_perm _ _).mem_iff
  rw [c.sources_eq ht hf, c.mem_map_full (hf file hmem).relative, List.mem_filter, hsorted]
  · exact and_iff_right hmem
  · intro p hp
    exact (hf p (hsorted.1 (List.mem_of_mem_filter hp))).relative

/-- Two places are alike if and only if every listed file belongs to the target in both or in
neither. -/
theorem alike_iff (ht : t.Inside) (hf : ∀ file ∈ files, file.LeadsOn) (c₁ c₂ : Checkout t files) :
    c₁.Alike c₂ ↔ ∀ file ∈ files, c₁.belongs file = c₂.belongs file := by
  constructor
  · rintro ⟨kept, hkept, h₁, h₂⟩ file hmem
    have hfile := (hf file hmem).relative
    have hrelative : ∀ p ∈ kept, p.isAbsolute = false := fun p hp => (hf p (hkept p hp)).relative
    rw [Bool.eq_iff_iff, ← c₁.full_mem_sources ht hf hmem, ← c₂.full_mem_sources ht hf hmem, h₁, h₂,
      c₁.mem_map_full hfile hrelative, c₂.mem_map_full hfile hrelative]
  · intro h
    have hmem : ∀ file ∈ files.mergeSort Path.stepsLE, file ∈ files :=
      fun file hfile => (List.mergeSort_perm _ _).mem_iff.1 hfile
    refine ⟨(files.mergeSort Path.stepsLE).filter c₁.belongs,
      fun file hfile => hmem file (List.mem_of_mem_filter hfile), c₁.sources_eq ht hf, ?_⟩
    rw [c₂.sources_eq ht hf]
    exact congrArg _ (List.filter_congr fun file hfile => (h file (hmem file hfile)).symm)

theorem belongs_eq_iff {c₁ c₂ : Checkout t files} : c₁.belongs file = c₂.belongs file ↔
    (file.isSource = true → t.excludes (c₁.full file) = t.excludes (c₂.full file)) := by
  rw [belongs, belongs]
  cases file.isSource <;> simp

/-- What is excluded for the sake of its place inside the package is excluded wherever that is. -/
theorem ExcludesInside.excludes_full {c : Checkout t files} (ht : t.Inside)
    (hf : file.isAbsolute = false) (h : c.ExcludesInside file) :
    t.excludes (c.full file) = t.excludes (t.inPackage file) := by
  rw [Bool.eq_iff_iff, Target.excludes, Target.excludes, List.any_eq_true, List.any_eq_true]
  constructor
  · rintro ⟨fragment, hmem, hfull⟩
    exact ⟨fragment, hmem, h fragment hmem hfull⟩
  · rintro ⟨fragment, hmem, hinside⟩
    refine ⟨fragment, hmem, ?_⟩
    rw [c.full_eq ht hf]
    exact Path.mentions_join (ht.isAbsolute_inPackage hf) hinside

end Checkout

/-- The order of a target's sources is the same in all places where its package may stand. The
sources themselves are the same in two places if and only if each of the listed source files is
excluded in both or in neither, so they are the same if nothing is excluded for the sake of the
directory of the package. -/
theorem sources_relocated {t : Target} {files : List Path} (ht : t.Inside)
    (hf : ∀ file ∈ files, file.LeadsOn) :
    (∃ ordered : List Path, ordered.Perm files ∧
      (ordered.Pairwise fun p q => p.stepsLE q = true) ∧
      ∀ c : Checkout t files, c.sources = (ordered.filter c.belongs).map c.full) ∧
    (∀ c : Checkout t files, ∀ file ∈ files, c.full file = c.dir.join (t.inPackage file)) ∧
    ∀ c₁ c₂ : Checkout t files,
      (c₁.Alike c₂ ↔ ∀ file ∈ files, file.isSource = true →
        t.excludes (c₁.full file) = t.excludes (c₂.full file)) ∧
      ((∀ file ∈ files, file.isSource = true → c₁.ExcludesInside file ∧ c₂.ExcludesInside file) →
        c₁.Alike c₂) := by
  have hmem : ∀ {file : Path}, file ∈ files.mergeSort Path.stepsLE ↔ file ∈ files :=
    (List.mergeSort_perm _ _).mem_iff
  refine ⟨⟨files.mergeSort Path.stepsLE, List.mergeSort_perm _ _,
    List.pairwise_mergeSort Path.stepsLE_trans Path.stepsLE_total files,
    fun c => c.sources_eq ht hf⟩, fun c file hfile => c.full_eq ht (hf file hfile).relative, ?_⟩
  intro c₁ c₂
  have halike : c₁.Alike c₂ ↔ ∀ file ∈ files, file.isSource = true →
      t.excludes (c₁.full file) = t.excludes (c₂.full file) :=
    (Checkout.alike_iff ht hf c₁ c₂).trans
      (forall₂_congr fun _ _ => Checkout.belongs_eq_iff)
  refine ⟨halike, fun hinside => halike.2 fun file hfile hsource => ?_⟩
  obtain ⟨h₁, h₂⟩ := hinside file hfile hsource
  have hrelative := (hf file hfile).relative
  rw [h₁.excludes_full ht hrelative, h₂.excludes_full ht hrelative]

/-- A place where nothing stands but the listed files of one target. -/
def Checkout.bare (t : Target) (files : List Path) (dir : Path) (absolute : dir.isAbsolute = true)
    (clean : dir.clean = dir) : Checkout t files where
  fs := { list := fun _ source => files.map source.join, read := fun _ _ => .error .absent }
  number := 0
  dir := dir
  absolute := absolute
  clean := clean
  lists := rfl

/-- A target that leaves out two kinds of files. -/
def draftingTarget : Target :=
  { name := "Lib", kind := .regular, exclude := ["Generated", "app/Sources"] }

def draftedFiles : List Path := [⟨"A.swift"⟩, ⟨"B.swift"⟩, ⟨"Generated/C.swift"⟩, ⟨"README.md"⟩]

def draftedIn (dir : Path) (absolute : dir.isAbsolute = true) (clean : dir.clean = dir) :
    Checkout draftingTarget draftedFiles := .bare _ _ dir absolute clean

theorem draftingTarget_inside : draftingTarget.Inside where
  path p hp := by cases hp
  name _ := ⟨by decide, by decide⟩

theorem draftedFiles_leadOn : ∀ file ∈ draftedFiles, file.LeadsOn := by
  have h : ∀ file ∈ draftedFiles, file.isAbsolute = false ∧ file.steps ≠ [] := by decide
  exact fun file hfile => ⟨(h file hfile).1, (h file hfile).2⟩

theorem drafted_sources (c : Checkout draftingTarget draftedFiles) :
    c.sources = (draftedFiles.filter c.belongs).map c.full := by
  have hsorted : draftedFiles.mergeSort Path.stepsLE = draftedFiles :=
    List.mergeSort_of_pairwise (by decide +kernel)
  rw [c.sources_eq draftingTarget_inside draftedFiles_leadOn, hsorted]

/-- Two places with ordinary names are alike. -/
theorem sources_relocated_home :
    let home := draftedIn ⟨"/home/dev/App"⟩ (by decide) (by decide)
    let ci := draftedIn ⟨"/ci"⟩ (by decide) (by decide)
    draftingTarget.Inside ∧ (∀ file ∈ draftedFiles, file.LeadsOn) ∧ home.Alike ci ∧
      home.sources = [⟨"/home/dev/App/Sources/Lib/A.swift"⟩, ⟨"/home/dev/App/Sources/Lib/B.swift"⟩] ∧
      ci.sources = [⟨"/ci/Sources/Lib/A.swift"⟩, ⟨"/ci/Sources/Lib/B.swift"⟩] := by
  intro home ci
  have hinside : ∀ file ∈ draftedFiles, file.isSource = true →
      home.ExcludesInside file ∧ ci.ExcludesInside file := by
    simp only [Checkout.ExcludesInside]
    decide +kernel
  refine ⟨draftingTarget_inside, draftedFiles_leadOn, ?_, ?_, ?_⟩
  · exact ((sources_relocated draftingTarget_inside draftedFiles_leadOn).2.2 home ci).2 hinside
  · rw [drafted_sources]
    decide +kernel
  · rw [drafted_sources]
    decide +kernel

/-- A fragment that the target excludes may stand in the directory of the package or across its
border: then nothing is collected. -/
theorem sources_relocated_generated :
    let generated := draftedIn ⟨"/Generated"⟩ (by decide) (by decide)
    let app := draftedIn ⟨"/work/app"⟩ (by decide) (by decide)
    let ci := draftedIn ⟨"/ci"⟩ (by decide) (by decide)
    draftingTarget.Inside ∧ (∀ file ∈ draftedFiles, file.LeadsOn) ∧
      generated.sources = [] ∧ app.sources = [] ∧
      ci.sources = [⟨"/ci/Sources/Lib/A.swift"⟩, ⟨"/ci/Sources/Lib/B.swift"⟩] ∧
      ¬ generated.Alike ci ∧ ¬ app.Alike ci := by
  intro generated app ci
  have hgenerated : generated.sources = [] := by
    rw [drafted_sources]
    decide +kernel
  have happ : app.sources = [] := by
    rw [drafted_sources]
    decide +kernel
  have hci : ci.sources = [⟨"/ci/Sources/Lib/A.swift"⟩, ⟨"/ci/Sources/Lib/B.swift"⟩] := by
    rw [drafted_sources]
    decide +kernel
  refine ⟨draftingTarget_inside, draftedFiles_leadOn, hgenerated, happ, hci, ?_, ?_⟩
  · exact fun h => List.cons_ne_nil _ _ (hci.symm.trans (h.sources_eq_nil hgenerated))
  · exact fun h => List.cons_ne_nil _ _ (hci.symm.trans (h.sources_eq_nil happ))

end DependencyAudit
