import DependencyAudit.FileTree

/-! What is read from a file of a tree. -/
namespace DependencyAudit

theorem Text.ofBytes?_toUTF8 (text : String) : Text.ofBytes? text.toUTF8 = some text := by
  have hvalid : text.toUTF8.IsValidUTF8 := text.isValidUTF8
  rw [Text.ofBytes?, String.fromUTF8?, dif_pos hvalid]
  rfl

namespace FileTree

variable {t : FileTree} {directory l : Location} {file : Path} {text : String}

theorem bytes_of_find {content : ByteArray}
    (h : t.find directory file = .ok (l, .file content)) : t.bytes directory file = .ok content := by
  rw [bytes, h]

theorem text_of_ofBytes {content : ByteArray} (h : t.bytes directory file = .ok content)
    (htext : Text.ofBytes? content = some text) : t.text directory file = .ok text := by
  rw [FileTree.text, h]
  dsimp only
  rw [htext]

theorem text_of_bytes (h : t.bytes directory file = .ok text.toUTF8) :
    t.text directory file = .ok text :=
  text_of_ofBytes h (Text.ofBytes?_toUTF8 text)

theorem text_of_find (h : t.find directory file = .ok (l, .file text.toUTF8)) :
    t.text directory file = .ok text :=
  text_of_bytes (bytes_of_find h)

theorem read_of_bytes (h : t.bytes directory file = .ok text.toUTF8) (n : Nat) :
    (t.fileSystem directory).read n file = .ok (Text.fileLines text) := by
  have hlines : t.lines directory file = .ok (Text.fileLines text) := by
    rw [lines, text_of_bytes h]
    rfl
  exact congrArg (Except.mapError ReadError.failed) hlines

end FileTree

end DependencyAudit
