import DependencyAudit.Proofs.FileTree
import DependencyAudit.Proofs.Scan.Plain
import DependencyAudit.Proofs.Text.Lines

/-!
Text files of a tree. What is found in a file depends on its lines only: neither on how each of them
is ended nor on a byte order mark in front of them.
-/
namespace DependencyAudit

namespace SourceImport

/-- What an import holds apart from its file. -/
def declaration (i : SourceImport) : Nat × String × String := (i.line, i.rawText, i.moduleName)

/-- The declarations of numbered lines. -/
def declarations (lines : List (String × Nat)) : List (Nat × String × String) :=
  lines.filterMap fun (rawText, n) => (ImportLine.module? rawText).map fun m => (n, rawText, m)

theorem map_declaration_ofLines (p : Path) (lines : List String) :
    (ofLines p lines).map declaration = declarations (lines.zipIdx 1) := by
  rw [ofLines, List.map_filterMap, declarations]
  refine List.filterMap_congr fun (rawText, n) _ => ?_
  cases h : ImportLine.module? rawText <;> simp [ofLine?, h, declaration]

end SourceImport

theorem Session.file_of_read {fs : FileSystem} {s : Session} {p : Path} {lines : List String}
    (hc : s.cached? p = none) (hr : fs.read s.clock p = .ok lines) :
    (s.file fs p).2 = SourceImport.ofLines p lines := by
  rw [Session.file, hc]
  dsimp only
  rw [hr]

/-- A file is read as the given lines just if it holds them, each ended by LF or CRLF, the last one
perhaps not ended, and with a byte order mark in front or without one; what is found in it is told
by the numbered lines. Of the marks in front exactly one is taken off. -/
theorem read_text_file {ls : List String} (hl : ∀ line ∈ ls, Text.IsLine line.toList)
    (t : FileTree) (directory : Location) (p : Path) :
    (Text.Unmarked ls → ∀ content, t.bytes directory p = .ok content.toUTF8 → ∀ n,
      ((t.fileSystem directory).read n p = .ok ls ↔ Text.FileOf ls content)) ∧
    (Text.Unmarked ls → ∀ content, t.bytes directory p = .ok content.toUTF8 →
      Text.FileOf ls content → ∀ s : Session, s.cached? p = none →
      (s.file (t.fileSystem directory) p).2 = SourceImport.ofLines p ls ∧
      (s.file (t.fileSystem directory) p).2.map SourceImport.declaration =
        SourceImport.declarations (ls.zipIdx 1)) ∧
    (∀ rest, t.bytes directory p = .ok (Text.mark ++ rest).toUTF8 → ∀ n,
      ((t.fileSystem directory).read n p = .ok ls ↔
        Text.TextOf (ls.map String.toList) rest.toList)) := by
  have hread : Text.Unmarked ls → ∀ content, t.bytes directory p = .ok content.toUTF8 → ∀ n,
      ((t.fileSystem directory).read n p = .ok ls ↔ Text.FileOf ls content) := by
    intro hm content hbytes n
    rw [FileTree.read_of_bytes hbytes, Except.ok.injEq]
    exact Text.fileLines_eq_iff hl hm
  refine ⟨hread, ?_, ?_⟩
  · intro hm content hbytes hcontent s hc
    have hfound := Session.file_of_read hc ((hread hm content hbytes s.clock).2 hcontent)
    rw [hfound]
    exact ⟨rfl, SourceImport.map_declaration_ofLines p ls⟩
  · intro rest hbytes n
    rw [FileTree.read_of_bytes hbytes, Except.ok.injEq, Text.fileLines_marked]
    exact Text.lines_eq_iff hl

def threeLines : List String := ["import A", "", "import B"]

/-- A file with a mark, mixed ends and an open last line, and one with other ends. -/
def mixedEnds : FileTree where
  nodes := [(["a.swift"], .file "\uFEFFimport A\r\n\nimport B".toUTF8),
    (["b.swift"], .file "import A\n\r\nimport B\r\n".toUTF8)]

/-- Both files have the same lines, and the same imports are found in them. -/
theorem read_text_file_mixed :
    (∀ line ∈ threeLines, Text.IsLine line.toList) ∧ Text.Unmarked threeLines ∧
    ∀ p ∈ [(⟨"/a.swift"⟩ : Path), ⟨"/b.swift"⟩],
      (mixedEnds.fileSystem []).read 0 p = .ok threeLines ∧
      (({} : Session).file (mixedEnds.fileSystem []) p).2.map SourceImport.declaration =
        [(1, "import A", "A"), (3, "import B", "B")] := by
  have hl : ∀ line ∈ threeLines, Text.IsLine line.toList := by
    simp only [threeLines, List.forall_mem_cons]
    exact ⟨⟨by decide, by decide⟩, ⟨by decide, by decide⟩, ⟨by decide, by decide⟩, by simp⟩
  have hm : Text.Unmarked threeLines := by
    rintro line ⟨rfl⟩
    decide
  have hmarked : Text.FileOf threeLines "\uFEFFimport A\r\n\nimport B" := by
    refine @Text.FileOf.marked threeLines "import A\r\n\nimport B" ?_
    exact .ended .returnFeed (.ended .feed (.unended (by decide)))
  have hother : Text.FileOf threeLines "import A\n\r\nimport B\r\n" :=
    .unmarked (.ended .feed (.ended .returnFeed (.ended .returnFeed .nil)))
  have hdeclared : SourceImport.declarations (threeLines.zipIdx 1) =
      [(1, "import A", "A"), (3, "import B", "B")] := by decide +kernel
  have hfile (p : Path) (content : String) (hbytes : mixedEnds.bytes [] p = .ok content.toUTF8)
      (hcontent : Text.FileOf threeLines content) :
      (mixedEnds.fileSystem []).read 0 p = .ok threeLines ∧
      (({} : Session).file (mixedEnds.fileSystem []) p).2.map SourceImport.declaration =
        [(1, "import A", "A"), (3, "import B", "B")] := by
    obtain ⟨hread, hfound, _⟩ := read_text_file hl mixedEnds [] p
    refine ⟨(hread hm content hbytes 0).2 hcontent, ?_⟩
    rw [(hfound hm content hbytes hcontent {} rfl).2, hdeclared]
  refine ⟨hl, hm, ?_⟩
  simp only [List.forall_mem_cons]
  exact ⟨hfile _ _ (FileTree.bytes_of_find rfl) hmarked,
    hfile _ _ (FileTree.bytes_of_find rfl) hother, by simp⟩

end DependencyAudit
