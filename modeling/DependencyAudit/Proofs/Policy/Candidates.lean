import DependencyAudit.Policy.Lookup
import DependencyAudit.Proofs.FileTree
import Mathlib.Data.List.Forall2
import Mathlib.Data.List.Permutation

/-!
Candidates for the policy. The first one of use is taken as it stands; of the candidates before it the
files are told about, and those after it are not looked at.
-/
namespace DependencyAudit.Policy

variable {t : FileTree} {directory : Location} {file : Path} {files before after : List Path}
  {policy : Policy} {error : PolicyError}

/-- A file of use: its bytes are a text that describes the policy. -/
def Usable (t : FileTree) (directory : Location) (file : Path) (policy : Policy) : Prop :=
  t.isFile directory file = true ∧ ∃ content text, t.bytes directory file = .ok content ∧
    Text.ofBytes? content = some text ∧ decode text = .ok policy

/-- A file of no use: it cannot be read, its bytes are no text, or the text describes no policy. -/
inductive Broken (t : FileTree) (directory : Location) (file : Path) : PolicyError → Prop
  | unreadable {cause : SystemError} : t.isFile directory file = true →
    t.bytes directory file = .error cause → Broken t directory file (.unreadable file cause)
  | invalid {content : ByteArray} : t.isFile directory file = true →
    t.bytes directory file = .ok content → Text.ofBytes? content = none →
    Broken t directory file (.unreadable file .invalidText)
  | undecodable {content : ByteArray} {text : String} {problem : Json.Problem} :
    t.isFile directory file = true → t.bytes directory file = .ok content →
    Text.ofBytes? content = some text → decode text = .error problem →
    Broken t directory file (.undecodable file problem)

def NoneUsable (t : FileTree) (directory : Location) (files : List Path) : Prop :=
  ∀ file ∈ files, ∀ policy, ¬ Usable t directory file policy

theorem Broken.isFile (h : Broken t directory file error) : t.isFile directory file = true := by
  cases h <;> assumption

theorem ofFile_of_usable (h : Usable t directory file policy) :
    ofFile t directory file = .ok policy := by
  obtain ⟨_, content, text, hbytes, htext, hdecode⟩ := h
  rw [ofFile, FileTree.text_of_ofBytes hbytes htext]
  dsimp only
  rw [hdecode]
  rfl

theorem ofFile_of_broken (h : Broken t directory file error) :
    ofFile t directory file = .error error := by
  cases h with
  | unreadable _ hbytes =>
    rw [ofFile, FileTree.text, hbytes]
  | invalid _ hbytes htext =>
    rw [ofFile, FileTree.text, hbytes]
    dsimp only
    rw [htext]
  | undecodable _ hbytes htext hdecode =>
    rw [ofFile, FileTree.text_of_ofBytes hbytes htext]
    dsimp only
    rw [hdecode]
    rfl

theorem Broken.not_usable (h : Broken t directory file error) (policy : Policy) :
    ¬ Usable t directory file policy := by
  intro husable
  have hok := ofFile_of_usable husable
  rw [ofFile_of_broken h] at hok
  cases hok

/-- A candidate is no file, or of use, or broken. -/
theorem candidate_cases (t : FileTree) (directory : Location) (file : Path) :
    t.isFile directory file = false ∨ (∃ policy, Usable t directory file policy) ∨
      ∃ error, Broken t directory file error := by
  cases hfile : t.isFile directory file with
  | false => exact Or.inl rfl
  | true =>
    right
    cases hbytes : t.bytes directory file with
    | error cause => exact Or.inr ⟨_, .unreadable hfile hbytes⟩
    | ok content =>
      cases htext : Text.ofBytes? content with
      | none => exact Or.inr ⟨_, .invalid hfile hbytes htext⟩
      | some text =>
        cases hdecode : decode text with
        | ok policy => exact Or.inl ⟨policy, hfile, content, text, hbytes, htext, hdecode⟩
        | error problem => exact Or.inr ⟨_, .undecodable hfile hbytes htext hdecode⟩

theorem load_of_usable (h : Usable t directory file policy) (files : List Path) :
    load t directory (file :: files) = (policy, []) := by
  rw [load, if_pos h.1, ofFile_of_usable h]

theorem load_of_absent (h : t.isFile directory file = false) (files : List Path) :
    load t directory (file :: files) = load t directory files := by
  rw [load, h, if_neg Bool.false_ne_true]

theorem load_of_broken (h : Broken t directory file error) (files : List Path) :
    load t directory (file :: files) =
      ((load t directory files).1, error :: (load t directory files).2) := by
  rw [load, if_pos h.isFile, ofFile_of_broken h]

/-- Candidates of no use are told about if they are files; the policy is that of the others. -/
theorem exists_warnings (h : NoneUsable t directory before) :
    ∃ warnings, List.Forall₂ (Broken t directory) (before.filter (t.isFile directory)) warnings ∧
      ∀ files, load t directory (before ++ files) =
        ((load t directory files).1, warnings ++ (load t directory files).2) := by
  induction before with
  | nil => exact ⟨[], .nil, fun _ => rfl⟩
  | cons file before ih =>
    obtain ⟨warnings, hwarnings, hload⟩ := ih fun f hf => h f (List.mem_cons_of_mem _ hf)
    obtain habsent | ⟨policy, husable⟩ | ⟨error, hbroken⟩ := candidate_cases t directory file
    · refine ⟨warnings, ?_, fun files => ?_⟩
      · rw [List.filter_cons, habsent, if_neg Bool.false_ne_true]
        exact hwarnings
      · rw [List.cons_append, load_of_absent habsent, hload]
    · exact (h file List.mem_cons_self policy husable).elim
    · refine ⟨error :: warnings, ?_, fun files => ?_⟩
      · rw [List.filter_cons, if_pos hbroken.isFile]
        exact .cons hbroken hwarnings
      · rw [List.cons_append, load_of_broken hbroken, hload, List.cons_append]

theorem noneUsable_nil : NoneUsable t directory [] := by
  intro file hfile
  cases hfile

theorem noneUsable_cons (h : ∀ policy, ¬ Usable t directory file policy)
    (hfiles : NoneUsable t directory files) : NoneUsable t directory (file :: files) := by
  intro f hf
  obtain rfl | hf := List.mem_cons.1 hf
  · exact h
  · exact hfiles f hf

theorem noneUsable_or_first (t : FileTree) (directory : Location) (files : List Path) :
    NoneUsable t directory files ∨ ∃ before file after policy, files = before ++ file :: after ∧
      NoneUsable t directory before ∧ Usable t directory file policy := by
  induction files with
  | nil => exact Or.inl noneUsable_nil
  | cons file files ih =>
    by_cases hfile : ∃ policy, Usable t directory file policy
    · obtain ⟨policy, hpolicy⟩ := hfile
      exact Or.inr ⟨[], file, files, policy, rfl, noneUsable_nil, hpolicy⟩
    · have hne := not_exists.1 hfile
      obtain hrest | ⟨before, first, after, policy, rfl, hbefore, hfirst⟩ := ih
      · exact Or.inl (noneUsable_cons hne hrest)
      · exact Or.inr ⟨file :: before, first, after, policy, rfl, noneUsable_cons hne hbefore, hfirst⟩

/-- The policy of a file of use is told by its text alone. -/
theorem Usable.unique {t' : FileTree} {directory' : Location} {file' : Path} {policy' : Policy}
    (h : Usable t directory file policy) (h' : Usable t' directory' file' policy')
    (heq : t.bytes directory file = t'.bytes directory' file') : policy = policy' := by
  obtain ⟨_, content, text, hbytes, htext, hdecode⟩ := h
  obtain ⟨_, content', text', hbytes', htext', hdecode'⟩ := h'
  rw [hbytes, hbytes', Except.ok.injEq] at heq
  rw [heq, htext', Option.some.injEq] at htext
  rw [← htext, hdecode', Except.ok.injEq] at hdecode
  exact hdecode.symm

/-- The policy is that of the first candidate of use, or else the default policy, with one warning
for every broken file before it and for nothing else. What comes after that candidate changes
nothing, and what stands in the candidates before it does not change the policy. -/
theorem load_first (t : FileTree) (directory : Location) :
    (∀ files, NoneUsable t directory files ∨ ∃ before file after policy,
      files = before ++ file :: after ∧ NoneUsable t directory before ∧
      Usable t directory file policy) ∧
    (∀ before file policy, NoneUsable t directory before → Usable t directory file policy →
      ∃ warnings,
        List.Forall₂ (Broken t directory) (before.filter (t.isFile directory)) warnings ∧
        ∀ after, load t directory (before ++ file :: after) = (policy, warnings)) ∧
    (∀ files, NoneUsable t directory files → ∃ warnings,
      List.Forall₂ (Broken t directory) (files.filter (t.isFile directory)) warnings ∧
      load t directory files = ({}, warnings)) ∧
    ∀ t' directory' before file after before' file' after',
      NoneUsable t directory before → NoneUsable t' directory' before' →
      (∃ policy, Usable t directory file policy) → (∃ policy, Usable t' directory' file' policy) →
      t.bytes directory file = t'.bytes directory' file' →
      (load t directory (before ++ file :: after)).1 =
        (load t' directory' (before' ++ file' :: after')).1 := by
  have hfirst : ∀ (t : FileTree) directory before file policy, NoneUsable t directory before →
      Usable t directory file policy → ∃ warnings,
        List.Forall₂ (Broken t directory) (before.filter (t.isFile directory)) warnings ∧
        ∀ after, load t directory (before ++ file :: after) = (policy, warnings) := by
    intro t directory before file policy hbefore hfile
    obtain ⟨warnings, hwarnings, hload⟩ := exists_warnings hbefore
    refine ⟨warnings, hwarnings, fun after => ?_⟩
    rw [hload, load_of_usable hfile, List.append_nil]
  refine ⟨noneUsable_or_first t directory, hfirst t directory, ?_, ?_⟩
  · intro files hfiles
    obtain ⟨warnings, hwarnings, hload⟩ := exists_warnings hfiles
    refine ⟨warnings, hwarnings, ?_⟩
    have hend := hload []
    rwa [List.append_nil, load, List.append_nil] at hend
  · rintro t' directory' before file after before' file' after' hbefore hbefore' ⟨policy, hfile⟩
      ⟨policy', hfile'⟩ heq
    obtain ⟨warnings, _, hload⟩ := hfirst t directory before file policy hbefore hfile
    obtain ⟨warnings', _, hload'⟩ := hfirst t' directory' before' file' policy' hbefore' hfile'
    rw [hload, hload']
    exact hfile.unique hfile' heq

def severalCandidates : FileTree where
  nodes := [(["directory"], .directory), (["locked"], .locked),
    (["bytes"], .file ⟨#[0xFF]⟩),
    (["partial"], .file "\x7b\"systemFrameworks\": [\"UIKit\"], \"ignoredTargets\": 5\x7d".toUTF8),
    (["usable"], .file "\x7b\"ignoredFrameworks\": [\x7b\"framework\": \"M\"\x7d]\x7d".toUTF8)]

/-- Three broken files, a missing one and a directory stand before the policy, of which nothing is
taken over, though one of them begins like a policy. -/
theorem load_first_several :
    let before : List Path := [⟨"/missing"⟩, ⟨"/directory"⟩, ⟨"/locked"⟩, ⟨"/bytes"⟩, ⟨"/partial"⟩]
    let policy : Policy := { ignoredModules := [⟨"M", none⟩] }
    NoneUsable severalCandidates [] before ∧ Usable severalCandidates [] ⟨"/usable"⟩ policy ∧
      ∃ warnings, warnings.length = 3 ∧ ∀ after,
        load severalCandidates [] (before ++ ⟨"/usable"⟩ :: after) = (policy, warnings) := by
  intro before policy
  have hfiles : before.filter (severalCandidates.isFile []) =
      [⟨"/locked"⟩, ⟨"/bytes"⟩, ⟨"/partial"⟩] := by decide +kernel
  have habsent : ∀ file ∈ [(⟨"/missing"⟩ : Path), ⟨"/directory"⟩], ∀ policy,
      ¬ Usable severalCandidates [] file policy := by
    have hfile : ∀ file ∈ [(⟨"/missing"⟩ : Path), ⟨"/directory"⟩],
        severalCandidates.isFile [] file = false := by decide +kernel
    intro file hmem policy husable
    exact Bool.false_ne_true ((hfile file hmem).symm.trans husable.1)
  have hlocked : Broken severalCandidates [] ⟨"/locked"⟩ (.unreadable ⟨"/locked"⟩ .permissionDenied) :=
    .unreadable (by decide +kernel) rfl
  have hbytes : Broken severalCandidates [] ⟨"/bytes"⟩ (.unreadable ⟨"/bytes"⟩ .invalidText) :=
    .invalid (by decide +kernel) (FileTree.bytes_of_find rfl) (by decide +kernel)
  have hpartial : ∃ problem, Broken severalCandidates [] ⟨"/partial"⟩
      (.undecodable ⟨"/partial"⟩ problem) := by
    have hdecode : ∃ problem, decode
        "\x7b\"systemFrameworks\": [\"UIKit\"], \"ignoredTargets\": 5\x7d" = .error problem := by
      cbv
      exact ⟨_, rfl⟩
    obtain ⟨problem, hproblem⟩ := hdecode
    exact ⟨problem, .undecodable (by decide +kernel) (FileTree.bytes_of_find rfl)
      (Text.ofBytes?_toUTF8 _) hproblem⟩
  have hnone : NoneUsable severalCandidates [] before := by
    obtain ⟨problem, hproblem⟩ := hpartial
    refine noneUsable_cons (habsent _ (by decide)) (noneUsable_cons (habsent _ (by decide)) ?_)
    exact noneUsable_cons hlocked.not_usable (noneUsable_cons hbytes.not_usable
      (noneUsable_cons hproblem.not_usable noneUsable_nil))
  have husable : Usable severalCandidates [] ⟨"/usable"⟩ policy := by
    refine ⟨by decide +kernel, _, _, FileTree.bytes_of_find rfl, Text.ofBytes?_toUTF8 _, by cbv⟩
  obtain ⟨_, hfirst, _⟩ := load_first severalCandidates []
  obtain ⟨warnings, hwarnings, hload⟩ := hfirst before ⟨"/usable"⟩ policy hnone husable
  rw [hfiles] at hwarnings
  exact ⟨hnone, husable, warnings, hwarnings.length_eq.symm, hload⟩

end DependencyAudit.Policy
