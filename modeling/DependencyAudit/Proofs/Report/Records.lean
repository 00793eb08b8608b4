import DependencyAudit.Proofs.Json.Printer
import DependencyAudit.Proofs.Json.Texts
import DependencyAudit.Report.Listing

/-!
The JSON report. It is a text of the array of the findings' records and of no other value, so that
the records can be read off it.
-/
namespace DependencyAudit

open Json

namespace Json

theorem head?_render_array (depth : Nat) (items : List Json) :
    (render depth (.array items)).head? = some '[' := by
  cases items <;> simp [render]

theorem getLast?_render_array (depth : Nat) (items : List Json) :
    (render depth (.array items)).getLast? = some ']' := by
  cases items with
  | nil => rfl
  | cons item items =>
    rw [render]
    exact List.getLast?_concat

end Json

namespace Report

variable {fs gs : List Finding}

/-- What a record tells of a finding. -/
def told (f : Finding) : String × String × String := (f.target, f.label, f.details)

theorem record_eq_iff {f g : Finding} : record f = record g ↔ told f = told g := by
  simp [record, told, Json.record, Json.text]

theorem map_record_eq_iff : fs.map record = gs.map record ↔ fs.map told = gs.map told := by
  induction fs generalizing gs with
  | nil => cases gs <;> simp
  | cons f fs ih =>
    cases gs with
    | nil => simp
    | cons g gs => simp [record_eq_iff, ih]

theorem printable_records (fs : List Finding) : Printable (.array (fs.map record)) := by
  refine printable_map (fun f => ?_) fs
  refine printable_record ?_
  simp only [List.forall_mem_cons]
  exact ⟨.string _, .string _, .string _, fun _ hm => nomatch hm⟩

theorem toList_printJson (fs : List Finding) :
    (printJson fs).toList = render 0 (.array (fs.map record)) ++ ['\n'] := by
  rw [printJson, line, print, String.toList_append, String.toList_ofList]
  rfl

theorem spells_printJson (fs : List Finding) :
    Spells (.array (fs.map record)) (printJson fs).toList := by
  have hbreak : Blanks ['\n'] := by simp [Blanks]
  rw [toList_printJson]
  exact (spells_render (printable_records fs) 0).append_blanks hbreak

/-- The JSON report is one value and a line break after it. Whoever reads it gets an array with one
object for every finding, in order, which has the three members that tell the finding and no others;
so reports are equal exactly if they tell the same. -/
theorem printJson_lossless (fs : List Finding) :
    let value : Json := .array (fs.map fun f =>
      .object [(some "targetName", .string (some f.target)), (some "type", .string (some f.label)),
        (some "details", .string (some f.details))])
    (∃ text : List Char, (printJson fs).toList = text ++ ['\n'] ∧ text.head? = some '[' ∧
      text.getLast? = some ']' ∧ Spells value text) ∧
    (∀ read, Spells read (printJson fs).toList ↔ read = value) ∧
    ofText? (printJson fs) = some value ∧
    ∀ gs, printJson fs = printJson gs ↔ fs.map told = gs.map told := by
  intro value
  have hspells : Spells value (printJson fs).toList := spells_printJson fs
  refine ⟨⟨render 0 value, toList_printJson fs, head?_render_array 0 _, getLast?_render_array 0 _,
    spells_render (printable_records fs) 0⟩, ?_, ofText?_eq_some_iff.2 hspells, ?_⟩
  · intro read
    constructor
    · intro hread
      exact hread.unique hspells
    · rintro rfl
      exact hspells
  · intro gs
    rw [← map_record_eq_iff]
    constructor
    · intro heq
      have hread := spells_printJson gs
      rw [← heq] at hread
      exact Json.array.inj (hspells.unique hread)
    · intro heq
      rw [printJson, printJson, heq]

end Report

end DependencyAudit
